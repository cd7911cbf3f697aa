import FleetQuery.Proofs.Json.Record
import FleetQuery.Record.Container
import FleetQuery.Record.Image

/-!
# Records survive being written and read

For each of the six records, `fields` lists its fields: their keys, the texts of their values, and
when they may be left out.  Only `Id` never may; any other field may if its value is the one that a
missing key stands for.  The state and the run configuration inside another record may be spelled in
any way themselves.

* `Writing j v` : the text is that of a JSON value, as it is written;
* `LabelsText`, `TextsText`, `OptionalText` : the texts of labels, of lists of texts and of values
  that may be missing;
* `RoundTrips` : a record is written in one of its spellings, and every spelling is read as the
  record;
* `records_roundTrip` : **all six records survive being written and read**.

Labels are a map, so two records are the `Same` if they differ at most in the order of their labels.
A text gives the labels in some order, and is read as the record that has them in this order.
-/

namespace FleetQuery

open Json

/-! ### Values of fields -/

/-- The text of a value, as it is written. -/
def Writing (j : Json) (v : List Char) : Prop := v = j.render

/-- The text of an instant, as it is written. -/
def InstantText (t : Instant) : List Char → Prop := Writing (.text (String.ofList t.write))

/-- The text of a value that may be missing. -/
inductive OptionalText {α : Type} (Text : α → List Char → Prop) : Option α → List Char → Prop
  /-- The value is missing. -/
  | none : OptionalText Text none null.render
  /-- The value is there. -/
  | some {a : α} {v : List Char} : Text a v → OptionalText Text (some a) v

/-- The text of an array of texts. -/
def TextsText (xs : List String) (v : List Char) : Prop := IsArray v (xs.map renderText) []

/-- The text of labels: an object of texts in the order of the labels. -/
def LabelsText (ls : Labels) (v : List Char) : Prop :=
  IsObject v (keyed (ls.entries.map fun e => (e.1, renderText e.2))) []

variable {α : Type} {v : List Char} {a : α}

theorem takes_writing {read : Reader α} {j : Json} (h : Takes read j.render a) :
    ∀ v, Writing j v → Takes read v a := by
  rintro _ rfl
  exact h

theorem takes_optional {Text : α → List Char → Prop} {c : Codec α} {a? : Option α}
    (h : ∀ a ∈ a?, ∀ v, Text a v → Takes c.read v a ∧ v.head? ≠ some 'n')
    (hv : OptionalText Text a? v) : Takes (Codec.optional c).read v a? := by
  cases hv with
  | none => exact takes_null c.read
  | some hv =>
    obtain ⟨htakes, hhead⟩ := h _ rfl _ hv
    exact takes_some htakes hhead

theorem takes_texts {xs : List String} (h : TextsText xs v) :
    Takes (Codec.list Codec.text).read v xs ∧ v.head? ≠ some 'n' := by
  refine ⟨takes_list h ?_, ?_⟩
  · rw [List.forall₂_map_left_iff]
    exact List.forall₂_same.2 fun x _ => takes_text x
  · obtain ⟨v', rfl⟩ := h.exists_cons
    simp

theorem takes_instantText {t : Instant} (h : InstantText t v) :
    Takes Codec.instant.read v t ∧ v.head? ≠ some 'n' := by
  obtain rfl := h
  exact ⟨takes_instant t, by simp [render, renderText]⟩

theorem takes_writtenInteger {n : Int} (hn : isInteger64 n = true) (h : Writing (.integer n) v) :
    Takes Codec.integer.read v n ∧ v.head? ≠ some 'n' := by
  obtain rfl := h
  refine ⟨takes_integer hn, ?_⟩
  obtain ⟨c, v', hv, hc⟩ := (numberText_renderInteger n).exists_cons
  rw [render, hv]
  rintro ⟨⟩
  exact absurd hc (by decide)

theorem head?_isRecord {fs : List RecordField} (h : IsRecord fs v) : v.head? ≠ some 'n' := by
  cases h with
  | object _ _ _ h =>
    obtain ⟨v', rfl⟩ := h.exists_cons
    simp
  | array _ h =>
    obtain ⟨v', rfl⟩ := h.exists_cons
    simp

theorem optionalText_write {Text : α → List Char → Prop} {c : Codec α}
    (h : ∀ a, Text a (c.write a).render) (a? : Option α) :
    OptionalText Text a? ((Codec.optional c).write a?).render := by
  cases a? with
  | none => exact .none
  | some a => exact .some (h a)

theorem instantText_write (t : Instant) : InstantText t (Codec.instant.write t).render := rfl

theorem integerText_write (n : Int) :
    Writing (.integer n) (Codec.integer.write n).render := rfl

theorem textsText_write (xs : List String) :
    TextsText xs ((Codec.list Codec.text).write xs).render := by
  have h := isArray_render (xs.map Json.text)
  rw [List.map_map] at h
  exact h

/-! ### Labels -/

namespace Labels

/-- Two collections of labels are the same map. -/
def Same (ls ls' : Labels) : Prop := ∀ key, ls.get? key = ls'.get? key

theorem entries_insert {ls : Labels} {key : String} (h : key ∉ ls.entries.map Prod.fst)
    (value : String) : (ls.insert key value).entries = ls.entries ++ [(key, value)] := by
  rw [insert, dif_neg h]

theorem eq_of_entries {ls ls' : Labels} (h : ls.entries = ls'.entries) : ls = ls' := by
  obtain ⟨entries, hnodup⟩ := ls
  obtain ⟨entries', hnodup'⟩ := ls'
  obtain rfl : entries = entries' := h
  rfl

/-- Take up the text of a label. -/
def step (ls : Labels) (key : String) : Reader Labels := do
  readColon
  let value ← readText
  pure (ls.insert key value)

/-- Labels are taken up one after the other, in the order of the text. -/
theorem steps_entries {entries : List (String × String)} {before ls : Labels}
    (h : ls.entries = before.entries ++ entries) :
    Steps step before (entries.map fun e => (e.1, renderText e.2)) ls := by
  induction entries generalizing before with
  | nil =>
    rw [List.append_nil] at h
    rw [eq_of_entries h]
    exact .nil
  | cons e entries ih =>
    obtain ⟨key, value⟩ := e
    have hnew : key ∉ before.entries.map Prod.fst := by
      have hnodup := ls.nodup
      rw [h, List.map_append, List.map_cons, List.nodup_append] at hnodup
      exact fun hmem => hnodup.2.2 key hmem key List.mem_cons_self rfl
    have hnext : ls.entries = (before.insert key value).entries ++ entries := by
      rw [entries_insert hnew, h, List.append_assoc]
      rfl
    refine .cons (fun hs ht hrest => ?_) (ih hnext)
    refine (reader_bind _ (readColon_eq hs)).trans ?_
    exact (reader_bind _ ((takes_text value).read_eq ht hrest)).trans rfl

theorem takes {ls : Labels} (h : LabelsText ls v) :
    Takes codec.read v ls ∧ v.head? ≠ some 'n' := by
  obtain ⟨v', rfl⟩ := h.exists_cons
  refine ⟨⟨⟨_, v', rfl, by decide, by decide⟩, fun {s rest} hs _ => ?_⟩, by simp⟩
  have hsteps : Steps step empty (ls.entries.map fun e => (e.1, renderText e.2)) ls :=
    steps_entries rfl
  have hskip : skipBlanks s = '\x7b' :: (v' ++ rest) := (padded_cons_iff (by decide)).1 hs
  have hread := readObjectBody_eq (h.append rest) hsteps
  simp only [codec, hskip]
  exact hread

theorem labelsText_write (ls : Labels) : LabelsText ls (codec.write ls).render := by
  have h := isObject_render (ls.entries.map fun e => (e.1, Json.text e.2))
  rw [List.map_map] at h
  exact h

end Labels

/-! ### Records -/

/-- A record survives being written and read: it is written in one of its spellings, and every
spelling of it is read as the record, as are those of the records that are the same. -/
structure RoundTrips {ρ : Type} (c : Codec ρ) (fields : ρ → List RecordField)
    (Same : ρ → ρ → Prop) (r : ρ) : Prop where
  /-- What is written spells the record. -/
  written : IsRecord (fields r) (c.write r).render
  /-- What is written is read as the record. -/
  read_written : readWhole c.read (String.ofList (c.write r).render) = .ok r
  /-- What spells the record, up to what does not count, is read as it is spelled. -/
  read_spelled : ∀ r' v, Same r r' → IsRecord (fields r') v →
    readWhole c.read (String.ofList v) = .ok r'

theorem roundTrips {ρ : Type} {c : Codec ρ} {fields : ρ → List RecordField} {Same : ρ → ρ → Prop}
    {r : ρ} (htakes : ∀ r' v, Same r r' → IsRecord (fields r') v → Takes c.read v r')
    (hwritten : IsRecord (fields r) (c.write r).render) (hsame : Same r r) :
    RoundTrips c fields Same r where
  written := hwritten
  read_written := readWhole_eq (htakes r _ hsame hwritten)
  read_spelled r' v hr' hv := readWhole_eq (htakes r' v hr' hv)

namespace ContainerSummary

/-- The fields of a summary. -/
def fields (c : ContainerSummary) : List RecordField :=
  [⟨"Id", Writing (.text c.id), False⟩, ⟨"Image", Writing (.text c.image), c.image = ""⟩]

theorem describes (c : ContainerSummary) : Describes layout (c.id, c.image, ()) c.fields :=
  .required (takes_writing (takes_text _)) <|
  .omissible (takes_writing (takes_text _)) rfl .nil

theorem takes {c : ContainerSummary} (hv : IsRecord c.fields v) : Takes codec.read v c := by
  refine Describes.takes_codec ?_ (by simp [fields]) rfl hv
  exact c.describes

theorem writes (c : ContainerSummary) : Writes layout (c.id, c.image, ()) c.fields :=
  .cons rfl rfl <| .cons rfl rfl .nil

end ContainerSummary

namespace ContainerState

/-- The fields of a state. -/
def fields (s : ContainerState) : List RecordField :=
  [⟨"Running", Writing (.flag s.running), s.running = false⟩,
    ⟨"Paused", Writing (.flag s.paused), s.paused = false⟩,
    ⟨"Restarting", Writing (.flag s.restarting), s.restarting = false⟩,
    ⟨"ExitCode", Writing (.integer s.exitCode), s.exitCode = -1⟩,
    ⟨"FinishedAt", OptionalText InstantText s.finishedAt?, s.finishedAt? = none⟩]

/-- The exit code is a signed 64-bit integer. -/
def Fits (s : ContainerState) : Prop := isInteger64 s.exitCode = true

theorem describes {s : ContainerState} (h : s.Fits) :
    Describes layout (s.running, s.paused, s.restarting, s.exitCode, s.finishedAt?, ()) s.fields :=
  .omissible (takes_writing (takes_flag _)) rfl <|
  .omissible (takes_writing (takes_flag _)) rfl <|
  .omissible (takes_writing (takes_flag _)) rfl <|
  .omissible (takes_writing (takes_integer h)) rfl <|
  .omissible (fun _ => takes_optional fun _ _ _ => takes_instantText) rfl
    .nil

theorem takes {s : ContainerState} (h : s.Fits) (hv : IsRecord s.fields v) :
    Takes codec.read v s := by
  refine Describes.takes_codec ?_ (by simp [fields]) rfl hv
  exact describes h

theorem writes (s : ContainerState) :
    Writes layout (s.running, s.paused, s.restarting, s.exitCode, s.finishedAt?, ()) s.fields :=
  .cons rfl rfl <| .cons rfl rfl <| .cons rfl rfl <| .cons rfl rfl <|
  .cons rfl (optionalText_write instantText_write _) .nil

end ContainerState

namespace RunConfig

/-- The fields of a run configuration. -/
def fields (c : RunConfig) : List RecordField :=
  [⟨"Labels", OptionalText LabelsText c.labels?, c.labels? = none⟩,
    ⟨"Cmd", OptionalText TextsText c.command?, c.command? = none⟩,
    ⟨"Entrypoint", OptionalText TextsText c.entrypoint?, c.entrypoint? = none⟩]

/-- Two run configurations differ at most in the order of their labels. -/
def Same (c c' : RunConfig) : Prop :=
  Option.Rel Labels.Same c.labels? c'.labels? ∧ c.command? = c'.command? ∧
    c.entrypoint? = c'.entrypoint?

theorem same_refl (c : RunConfig) : c.Same c := by
  refine ⟨?_, rfl, rfl⟩
  cases c.labels? with
  | none => exact .none
  | some ls => exact .some fun _ => rfl

theorem describes (c : RunConfig) :
    Describes layout (c.labels?, c.command?, c.entrypoint?, ()) c.fields :=
  .omissible (fun _ => takes_optional fun _ _ _ => Labels.takes) rfl <|
  .omissible (fun _ => takes_optional fun _ _ _ => takes_texts) rfl <|
  .omissible (fun _ => takes_optional fun _ _ _ => takes_texts) rfl .nil

theorem takes {c : RunConfig} (hv : IsRecord c.fields v) : Takes codec.read v c := by
  refine Describes.takes_codec ?_ (by simp [fields]) rfl hv
  exact c.describes

theorem writes (c : RunConfig) :
    Writes layout (c.labels?, c.command?, c.entrypoint?, ()) c.fields :=
  .cons rfl (optionalText_write Labels.labelsText_write _) <|
  .cons rfl (optionalText_write textsText_write _) <|
  .cons rfl (optionalText_write textsText_write _) .nil

end RunConfig

namespace ContainerDetails

/-- The fields of details. -/
def fields (d : ContainerDetails) : List RecordField :=
  [⟨"Id", Writing (.text d.id), False⟩,
    ⟨"Name", Writing (.text d.name), d.name = ""⟩,
    ⟨"Created", OptionalText InstantText d.created?, d.created? = none⟩,
    ⟨"State", IsRecord d.state.fields, d.state = ⟨false, false, false, -1, none⟩⟩,
    ⟨"Config", IsRecord d.config.fields, d.config = ⟨none, none, none⟩⟩]

/-- The exit code is a signed 64-bit integer. -/
def Fits (d : ContainerDetails) : Prop := d.state.Fits

/-- Two details differ at most in the order of their labels. -/
def Same (d d' : ContainerDetails) : Prop :=
  d.id = d'.id ∧ d.name = d'.name ∧ d.created? = d'.created? ∧ d.state = d'.state ∧
    d.config.Same d'.config

theorem same_refl (d : ContainerDetails) : d.Same d := ⟨rfl, rfl, rfl, rfl, d.config.same_refl⟩

theorem describes {d : ContainerDetails} (h : d.Fits) :
    Describes layout (d.id, d.name, d.created?, d.state, d.config, ()) d.fields :=
  .required (takes_writing (takes_text _)) <|
  .omissible (takes_writing (takes_text _)) rfl <|
  .omissible (fun _ => takes_optional fun _ _ _ => takes_instantText) rfl <|
  .omissible (fun _ => ContainerState.takes h) rfl <|
  .omissible (fun _ => RunConfig.takes) rfl .nil

theorem takes {d : ContainerDetails} (h : d.Fits) (hv : IsRecord d.fields v) :
    Takes codec.read v d := by
  refine Describes.takes_codec ?_ (by simp [fields]) rfl hv
  exact describes h

theorem writes (d : ContainerDetails) :
    Writes layout (d.id, d.name, d.created?, d.state, d.config, ()) d.fields :=
  .cons rfl rfl <| .cons rfl rfl <| .cons rfl (optionalText_write instantText_write _) <|
  .cons rfl d.state.writes.isRecord <| .cons rfl d.config.writes.isRecord .nil

end ContainerDetails

namespace ImageSummary

/-- The fields of a summary. -/
def fields (i : ImageSummary) : List RecordField :=
  [⟨"Id", Writing (.text i.id), False⟩,
    ⟨"Size", Writing (.integer i.size), i.size = 0⟩,
    ⟨"VirtualSize", OptionalText (fun n => Writing (.integer n)) i.virtualSize?,
      i.virtualSize? = none⟩]

/-- The sizes are signed 64-bit integers. -/
def Fits (i : ImageSummary) : Prop :=
  isInteger64 i.size = true ∧ ∀ n ∈ i.virtualSize?, isInteger64 n = true

theorem describes {i : ImageSummary} (h : i.Fits) :
    Describes layout (i.id, i.size, i.virtualSize?, ()) i.fields := by
  refine .required (takes_writing (takes_text _)) <|
    .omissible (takes_writing (takes_integer h.1)) rfl <|
    .omissible (fun _ => takes_optional fun n hn v => ?_) rfl .nil
  exact takes_writtenInteger (h.2 n hn)

theorem takes {i : ImageSummary} (h : i.Fits) (hv : IsRecord i.fields v) :
    Takes codec.read v i := by
  refine Describes.takes_codec ?_ (by simp [fields]) rfl hv
  exact describes h

theorem writes (i : ImageSummary) :
    Writes layout (i.id, i.size, i.virtualSize?, ()) i.fields :=
  .cons rfl rfl <| .cons rfl rfl <| .cons rfl (optionalText_write integerText_write _) .nil

end ImageSummary

namespace ImageDetails

/-- The fields of details. -/
def fields (d : ImageDetails) : List RecordField :=
  [⟨"Id", Writing (.text d.id), False⟩,
    ⟨"Comment", Writing (.text d.comment), d.comment = ""⟩,
    ⟨"Author", Writing (.text d.author), d.author = ""⟩,
    ⟨"Architecture", Writing (.text d.architecture), d.architecture = ""⟩,
    ⟨"DockerVersion", Writing (.text d.dockerVersion), d.dockerVersion = ""⟩,
    ⟨"Created", OptionalText InstantText d.created?, d.created? = none⟩,
    ⟨"Config", OptionalText (fun c => IsRecord c.fields) d.config?, d.config? = none⟩]

/-- Two details differ at most in the order of their labels. -/
def Same (d d' : ImageDetails) : Prop :=
  d.id = d'.id ∧ d.comment = d'.comment ∧ d.author = d'.author ∧
    d.architecture = d'.architecture ∧ d.dockerVersion = d'.dockerVersion ∧
    d.created? = d'.created? ∧ Option.Rel RunConfig.Same d.config? d'.config?

theorem same_refl (d : ImageDetails) : d.Same d := by
  refine ⟨rfl, rfl, rfl, rfl, rfl, rfl, ?_⟩
  cases d.config? with
  | none => exact .none
  | some c => exact .some c.same_refl

theorem describes (d : ImageDetails) :
    Describes layout (d.id, d.comment, d.author, d.architecture, d.dockerVersion, d.created?,
      d.config?, ()) d.fields :=
  .required (takes_writing (takes_text _)) <|
  .omissible (takes_writing (takes_text _)) rfl <|
  .omissible (takes_writing (takes_text _)) rfl <|
  .omissible (takes_writing (takes_text _)) rfl <|
  .omissible (takes_writing (takes_text _)) rfl <|
  .omissible (fun _ => takes_optional fun _ _ _ => takes_instantText) rfl <|
  .omissible (fun _ => takes_optional fun _ _ _ hv => ⟨RunConfig.takes hv, head?_isRecord hv⟩) rfl
    .nil

theorem takes {d : ImageDetails} (hv : IsRecord d.fields v) : Takes codec.read v d := by
  refine Describes.takes_codec ?_ (by simp [fields]) rfl hv
  exact d.describes

theorem writes (d : ImageDetails) :
    Writes layout (d.id, d.comment, d.author, d.architecture, d.dockerVersion, d.created?,
      d.config?, ()) d.fields :=
  .cons rfl rfl <| .cons rfl rfl <| .cons rfl rfl <| .cons rfl rfl <| .cons rfl rfl <|
  .cons rfl (optionalText_write instantText_write _) <|
  .cons rfl (optionalText_write (fun c => c.writes.isRecord) _) .nil

end ImageDetails

/-- **Records survive being written and read.**  Every record of the six types, with integers of 64
bits, is written in one of its spellings and read back from it; and it is read from every other
spelling too, with the keys in any order, with any values under further keys, without fields that
have the value of a missing one, and as an array of the values in order, which may end before such
fields. -/
theorem records_roundTrip :
    (∀ c, RoundTrips ContainerSummary.codec ContainerSummary.fields Eq c) ∧
    (∀ d : ContainerDetails, d.Fits →
      RoundTrips ContainerDetails.codec ContainerDetails.fields ContainerDetails.Same d) ∧
    (∀ s : ContainerState, s.Fits →
      RoundTrips ContainerState.codec ContainerState.fields Eq s) ∧
    (∀ c, RoundTrips RunConfig.codec RunConfig.fields RunConfig.Same c) ∧
    (∀ i : ImageSummary, i.Fits → RoundTrips ImageSummary.codec ImageSummary.fields Eq i) ∧
    (∀ d, RoundTrips ImageDetails.codec ImageDetails.fields ImageDetails.Same d) := by
  refine ⟨fun c => ?_, fun d hd => ?_, fun s hs => ?_, fun c => ?_, fun i hi => ?_, fun d => ?_⟩
  · exact roundTrips (fun _ _ _ => ContainerSummary.takes) c.writes.isRecord rfl
  · refine roundTrips (fun d' _ hsame => ContainerDetails.takes ?_) d.writes.isRecord d.same_refl
    have hstate : d.state = d'.state := hsame.2.2.2.1
    exact show d'.state.Fits from hstate ▸ hd
  · exact roundTrips (fun _ _ hsame => ContainerState.takes (hsame ▸ hs)) s.writes.isRecord rfl
  · exact roundTrips (fun _ _ _ => RunConfig.takes) c.writes.isRecord c.same_refl
  · exact roundTrips (fun _ _ hsame => ImageSummary.takes (hsame ▸ hi)) i.writes.isRecord rfl
  · exact roundTrips (fun _ _ _ => ImageDetails.takes) d.writes.isRecord d.same_refl

/-- Details of a container with its keys in reverse, behind an unknown key that stands twice; the
state is an array without its last four values, and the configuration has an unknown key too. -/
theorem records_roundTrip_reverse :
    let d : ContainerDetails := ⟨"a", "", none, ⟨true, false, false, -1, none⟩,
      ⟨some ⟨[("env", "prod")], List.nodup_singleton _⟩, none, none⟩⟩
    d.Fits ∧ readWhole ContainerDetails.codec.read
      ("\x7b\"Mounts\":\x7b\"Id\":2\x7d,\"Mounts\":[1,null]," ++
        "\"Config\":\x7b\"User\":[],\"Labels\":\x7b\"env\":\"prod\"\x7d\x7d," ++
        "\"State\":[true],\"Id\":\"a\"\x7d") = .ok d := by
  intro d
  let labels : Json := .object [("env", .text "prod")]
  let config : Json := .object [("User", .list []), ("Labels", labels)]
  let mounts : Json := .list [.integer 1, .null]
  let mounts' : Json := .object [("Id", .integer 2)]
  let details : Json := .object [("Mounts", mounts'), ("Mounts", mounts), ("Config", config),
    ("State", .list [.flag true]), ("Id", .text "a")]
  have hlabels : LabelsText ⟨[("env", "prod")], List.nodup_singleton _⟩ labels.render :=
    Labels.labelsText_write _
  have hconfig : IsRecord d.config.fields config.render := by
    have hkept : Kept d.config.fields [("Labels", labels.render)] :=
      .keep (.some hlabels) (.drop rfl (.drop rfl .nil))
    have hothers : ∀ m ∈ [("User", (Json.list []).render)],
        m.1 ∉ d.config.fields.map RecordField.key ∧ IsValue m.2 := by
      simp [RunConfig.fields, isValue_render]
    exact .object hkept hothers (List.reverse_perm _) (isObject_render _)
  have hstate : IsRecord d.state.fields (Json.list [.flag true]).render :=
    .array (.keep rfl (.stop (by simp [d]))) (isArray_render _)
  have hdetails : IsRecord d.fields details.render := by
    have hkept : Kept d.fields [("Id", (Json.text "a").render),
        ("State", (Json.list [.flag true]).render), ("Config", config.render)] :=
      .keep rfl (.drop rfl (.drop rfl (.keep hstate (.keep hconfig .nil))))
    have hothers : ∀ m ∈ [("Mounts", mounts.render), ("Mounts", mounts'.render)],
        m.1 ∉ d.fields.map RecordField.key ∧ IsValue m.2 := by
      simp [ContainerDetails.fields, isValue_render]
    exact .object hkept hothers (List.reverse_perm _) (isObject_render _)
  have htext : String.ofList details.render =
      "\x7b\"Mounts\":\x7b\"Id\":2\x7d,\"Mounts\":[1,null]," ++
        "\"Config\":\x7b\"User\":[],\"Labels\":\x7b\"env\":\"prod\"\x7d\x7d," ++
        "\"State\":[true],\"Id\":\"a\"\x7d" := by decide +kernel
  refine ⟨rfl, ?_⟩
  rw [← htext]
  exact (records_roundTrip.2.1 d rfl).read_spelled d _ d.same_refl hdetails

end FleetQuery

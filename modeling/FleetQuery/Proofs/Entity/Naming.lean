import FleetQuery.Config.Basic
import FleetQuery.Proofs.Json.Reader
import FleetQuery.Proofs.Match.Like
import FleetQuery.Proofs.Outcome
import FleetQuery.Proofs.Text.Ascii
import FleetQuery.Record.Kind

/-!
# Names of kinds

People name a kind in the singular or the plural and in any case.  The name is put in lower case and
then looked up.  That is the lower case of all of Unicode, so it takes an argument that nothing but
the letters of ASCII gets through:

* `EntityKind.spellings` : the two names of a kind;
* `EntityKind.ofText?_eq_ok_iff` : **a text names a kind exactly if it is one of them up to the case
  of ASCII letters**;
* `EntityKind.OnRecord`, `EntityKind.InTable` : the names that stand in records and in configuration
  files;
* `EntityKind.naming` : no other character gets through, whatever names a kind on record or in a
  table names the same kind here, and so does its own name.
-/

namespace FleetQuery

namespace EntityKind

variable {kind : EntityKind} {s : String} {t u rest : List Char}

/-! ### Spellings -/

/-- The names of a kind, in the singular and in the plural. -/
def spellings : EntityKind → List String
  | container => ["container", "containers"]
  | image => ["image", "images"]

theorem name_mem_spellings (kind : EntityKind) : kind.name ∈ kind.spellings := by
  cases kind <;> exact List.mem_cons_self

theorem ofKey?_eq_some_iff : ofKey? s = some kind ↔ s ∈ kind.spellings := by
  constructor
  · intro h
    rw [ofKey?] at h
    split_ifs at h with hcontainer himage <;> cases h
    · simpa [spellings] using hcontainer
    · simpa [spellings] using himage
  · intro h
    cases kind <;> rcases List.mem_pair.mp h with rfl | rfl <;> rfl

theorem small_of_mem_spellings (h : s ∈ kind.spellings) :
    IsAscii s.toList ∧ lowercase s.toList = s.toList ∧ 'k' ∉ s.toList := by
  cases kind <;> rcases List.mem_pair.mp h with rfl | rfl <;> decide +kernel

/-! ### Texts -/

theorem ofText?_eq_ok_iff_ofKey? :
    ofText? s = .ok kind ↔ ofKey? (String.ofList (lowercase s.toList)) = some kind := by
  rw [ofText?]
  cases ofKey? (String.ofList (lowercase s.toList)) <;> simp

theorem ofText?_eq_ok_iff_lowercase :
    ofText? s = .ok kind ↔ ∃ name ∈ kind.spellings, lowercase s.toList = name.toList := by
  rw [ofText?_eq_ok_iff_ofKey?, ofKey?_eq_some_iff]
  constructor
  · intro h
    exact ⟨_, h, by rw [String.toList_ofList]⟩
  · rintro ⟨name, hname, hlower⟩
    rwa [hlower, String.ofList_toList]

/-- **A text names a kind exactly if it is one of its names up to the case of ASCII letters.** -/
theorem ofText?_eq_ok_iff (s : String) (kind : EntityKind) :
    ofText? s = .ok kind ↔ ∃ name ∈ kind.spellings, Recased s name := by
  rw [ofText?_eq_ok_iff_lowercase]
  refine exists_congr fun name => and_congr_right fun hname => ?_
  obtain ⟨hascii, hsmall, hk⟩ := small_of_mem_spellings hname
  exact lowercase_eq_iff hascii hsmall hk

theorem isAscii_of_ofText? (h : ofText? s = .ok kind) : IsAscii s.toList := by
  obtain ⟨name, hname, hlower⟩ := ofText?_eq_ok_iff_lowercase.mp h
  obtain ⟨hascii, -, hk⟩ := small_of_mem_spellings hname
  exact isAscii_of_lowercase (hlower ▸ hascii) (hlower ▸ hk)

theorem ofText?_of_ofKey? (h : ofKey? s = some kind) : ofText? s = .ok kind := by
  have hname := ofKey?_eq_some_iff.mp h
  exact ofText?_eq_ok_iff_lowercase.mpr ⟨s, hname, (small_of_mem_spellings hname).2.1⟩

/-! ### Records and configuration files -/

/-- The name with which a text in JSON begins: a text by itself, or the first key of an object. -/
inductive OnRecord (t : List Char) (key : String) : Prop
  /-- A text. -/
  | text {rest : List Char} : Json.readText t = .ok (key, rest) → OnRecord t key
  /-- The first key of an object. -/
  | object {u rest : List Char} : skipBlanks t = '\x7b' :: u → Json.readText u = .ok (key, rest) →
      OnRecord t key

/-- The name that a value of a configuration file is: a text, or the only key of a table. -/
inductive InTable : Toml.Value → String → Prop
  /-- A text. -/
  | text (key : String) : InTable (.text key) key
  /-- The only key of a table. -/
  | table (key : String) (origin : Toml.Origin) (v : Toml.Value) :
      InTable (.table origin [(key, v)]) key

theorem readKey_eq_ok_iff : readKey t = .ok (kind, rest) ↔
    ∃ key, Json.readText t = .ok (key, rest) ∧ ofKey? key = some kind := by
  constructor
  · intro h
    obtain ⟨⟨key, t'⟩, htext, hkey⟩ := except_bind_eq_ok.mp h
    dsimp only at hkey
    cases hof : ofKey? key with
    | none =>
      rw [hof] at hkey
      cases hkey
    | some kind' =>
      rw [hof] at hkey
      cases hkey
      exact ⟨key, htext, hof⟩
  · rintro ⟨key, htext, hof⟩
    rw [readKey, Json.reader_bind _ htext, hof]
    rfl

theorem read_renderText_eq_ok_iff (key : String) (kind : EntityKind) :
    read (Json.renderText key) = .ok (kind, []) ↔ key ∈ kind.spellings := by
  have htext : Json.readText (Json.renderText key) = .ok (key, []) :=
    (Json.takes_text key).read_eq (by rw [List.append_nil]; exact .refl _) Json.stops_nil
  have hread : read (Json.renderText key) = readKey (Json.renderText key) := rfl
  rw [hread, readKey_eq_ok_iff, ← ofKey?_eq_some_iff]
  constructor
  · rintro ⟨key', htext', hof⟩
    rw [htext] at htext'
    cases htext'
    exact hof
  · exact fun hof => ⟨key, htext, hof⟩

theorem ofKey?_of_readObject (h : readObject t = .ok (kind, rest)) :
    ∃ key u, Json.readText t = .ok (key, u) ∧ ofKey? key = some kind := by
  obtain ⟨⟨kind', u⟩, hkey, hcolon⟩ := except_bind_eq_ok.mp h
  obtain ⟨_, -, hnull⟩ := except_bind_eq_ok.mp hcolon
  obtain ⟨_, -, hclose⟩ := except_bind_eq_ok.mp hnull
  obtain ⟨_, -, hend⟩ := except_bind_eq_ok.mp hclose
  cases hend
  obtain ⟨key, htext, hof⟩ := readKey_eq_ok_iff.mp hkey
  exact ⟨key, u, htext, hof⟩

/-- What stands on record for a kind is a name of it. -/
theorem exists_onRecord_of_read (h : read t = .ok (kind, rest)) :
    ∃ key, OnRecord t key ∧ ofKey? key = some kind := by
  unfold read at h
  split at h
  · rename_i s hskip
    obtain ⟨key, htext, hkey⟩ := readKey_eq_ok_iff.mp h
    have hread : Json.readText t = .ok (key, rest) := by
      rw [Json.readText, hskip]
      exact htext
    exact ⟨key, .text hread, hkey⟩
  · rename_i s hskip
    split at h
    · rename_i u hskip'
      obtain ⟨key, u', htext, hkey⟩ := ofKey?_of_readObject h
      have hread : Json.readText s = .ok (key, u') := by
        rw [Json.readText, hskip']
        exact htext
      exact ⟨key, .object hskip hread, hkey⟩
    · cases h
    · cases h
  · cases h
  · cases h

/-- What stands in a configuration file for a kind is a name of it. -/
theorem exists_inTable_of_kind? {v : Toml.Value} (h : v.kind? = some kind) :
    ∃ key, InTable v key ∧ ofKey? key = some kind := by
  unfold Toml.Value.kind? at h
  split at h
  · exact ⟨_, .text _, h⟩
  · exact ⟨_, .table .., h⟩
  · exact ⟨_, .table .., h⟩
  · cases h

/-! ### Naming a kind -/

/-- How people may name a kind. -/
structure Naming (kind : EntityKind) : Prop where
  /-- In the singular or the plural, in either case of the letters of ASCII, and not otherwise. -/
  named : ∀ s, ofText? s = .ok kind ↔ ∃ name ∈ kind.spellings, Recased s name
  /-- No other character is put in lower case to become a letter of the name. -/
  ascii : ∀ s, ofText? s = .ok kind → IsAscii s.toList
  /-- On record, the texts that name it are its names. -/
  text : ∀ key, read (Json.renderText key) = .ok (kind, []) ↔ key ∈ kind.spellings
  /-- However it is written there, what names the kind on record names it here. -/
  record : ∀ t rest, read t = .ok (kind, rest) → ∃ key, OnRecord t key ∧ ofText? key = .ok kind
  /-- So does what names it in a configuration file. -/
  table : ∀ v : Toml.Value, v.kind? = some kind → ∃ key, InTable v key ∧ ofText? key = .ok kind
  /-- So does its own name. -/
  name : ofText? kind.name = .ok kind

/-- **Kinds are named in ASCII.**  A text names a kind exactly if it is, up to the case of ASCII
letters, the name of the kind in the singular or the plural; all names that are read from records
and configuration files are among these, and mean the same. -/
theorem naming (kind : EntityKind) : kind.Naming where
  named s := ofText?_eq_ok_iff s kind
  ascii _ h := isAscii_of_ofText? h
  text key := read_renderText_eq_ok_iff key kind
  record _ _ h := (exists_onRecord_of_read h).imp fun _ => .imp_right ofText?_of_ofKey?
  table _ h := (exists_inTable_of_kind? h).imp fun _ => .imp_right ofText?_of_ofKey?
  name := ofText?_of_ofKey? (ofKey?_eq_some_iff.mpr kind.name_mem_spellings)

/-- The plural in mixed case, and the plural as the only key of an object, with an escape in it. -/
theorem naming_plural :
    ofText? "CONTAINERs" = .ok .container ∧
      ∃ key, OnRecord " \x7b\"im\\u0061ges\": null \x7d".toList key ∧ ofText? key = .ok .image := by
  constructor
  · exact ((naming .container).named _).mpr ⟨"containers", by decide, by decide⟩
  · exact (naming .image).record _ [] (by decide +kernel)

/-- A dotless i is a small letter of its own, and a capital I with a dot becomes two characters. -/
example : ofText? "\u0131mage" = .error "unknown entity kind '\u0131mage'" ∧
    ofText? "\u0130mages" = .error "unknown entity kind 'i\u0307mages'" := by
  decide +kernel

end EntityKind

end FleetQuery

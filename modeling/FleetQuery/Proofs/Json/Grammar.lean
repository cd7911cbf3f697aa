import FleetQuery.Json.Lexeme
import FleetQuery.Json.Value
import FleetQuery.Proofs.Literal.Grammar

/-!
# The grammar of JSON

The texts of JSON values, independent of the readers:

    Value   := 'null' | 'true' | 'false' | Number | String | Array | Object
    Number  := ['-'] Whole ['.' Digits] [('e' | 'E') ['+' | '-'] Digits]
    Array   := '[' [Value (',' Value)*] ']'
    Object  := '{' [Member (',' Member)*] '}'
    Member  := String ':' Value

with blanks around the values, keys and signs of arrays and objects.

* `NumberText p v` : the text `v` is a number with the parts `p`;
* `IsString v` : the text `v` is a string, whatever its escapes denote;
* `IsArray s vs rest`, `IsObject s ms rest` : the text `s` begins with an array of the texts `vs`,
  or with an object of the keys and values `ms`, and goes on with `rest`;
* `IsValue v` : the text `v` is a value;
* `isArray_render`, `isObject_render` : compact texts are of this form.

A value ends where a number would not go on (`Stops`), which is all that has to be known about the
text behind it.
-/

namespace FleetQuery

namespace Json

/-! ### Numbers -/

/-- The text of a fraction, with its digits. -/
inductive FractionText : Option (List Char) → List Char → Prop
  /-- There is no fraction. -/
  | none : FractionText none []
  /-- There are digits behind a point. -/
  | digits {ds : List Char} : IsCount ds → FractionText (some ds) ('.' :: ds)

/-- The text of an exponent, with its sign and its digits. -/
inductive ExponentText : Option (Bool × List Char) → List Char → Prop
  /-- There is no exponent. -/
  | none : ExponentText none []
  /-- There are digits behind the letter. -/
  | digits {e : Char} {ds : List Char} : e = 'e' ∨ e = 'E' → IsCount ds →
      ExponentText (some (false, ds)) (e :: ds)
  /-- A plus stands before the digits. -/
  | plus {e : Char} {ds : List Char} : e = 'e' ∨ e = 'E' → IsCount ds →
      ExponentText (some (false, ds)) (e :: '+' :: ds)
  /-- A minus stands before the digits. -/
  | minus {e : Char} {ds : List Char} : e = 'e' ∨ e = 'E' → IsCount ds →
      ExponentText (some (true, ds)) (e :: '-' :: ds)

/-- The text of a number, with its parts.  No digit follows a zero at the front. -/
inductive NumberText : NumberParts → List Char → Prop
  /-- The parts stand one after the other. -/
  | mk {negative : Bool} {whole f e : List Char} {fraction? : Option (List Char)}
      {exponent? : Option (Bool × List Char)} : IsCount whole →
      (whole.head? = some '0' → whole = ['0']) → FractionText fraction? f →
      ExponentText exponent? e → NumberText ⟨negative, whole, fraction?, exponent?⟩
        ((if negative then ['-'] else []) ++ (whole ++ (f ++ e)))

/-! ### Strings -/

/-- The text between the quotes of a string. -/
inductive IsBody : List Char → Prop
  /-- The string is empty. -/
  | nil : IsBody []
  /-- A character that stands for itself. -/
  | plain {c : Char} {s : List Char} : c ≠ '"' → c ≠ '\\' → 0x20 ≤ c.toNat → IsBody s →
      IsBody (c :: s)
  /-- An escape of one letter. -/
  | letter {c : Char} {s : List Char} : c ∈ ['"', '\\', '/', 'b', 'f', 'n', 'r', 't'] → IsBody s →
      IsBody ('\\' :: c :: s)
  /-- An escape of four hexadecimal digits. -/
  | unit {ds s : List Char} : ds.length = 4 → (∀ d ∈ ds, (hexValue? d).isSome = true) → IsBody s →
      IsBody ('\\' :: 'u' :: (ds ++ s))

/-- The text of a string. -/
def IsString (v : List Char) : Prop := ∃ body, IsBody body ∧ v = '"' :: (body ++ ['"'])

/-! ### Arrays and objects -/

section Enclosed

variable {α : Type}

/-- The text goes on with further items, a comma before each of them, up to a closing sign and the
rest.  `Item s a t` says that `s` begins with the item `a` and goes on with `t`. -/
inductive Further (Item : List Char → α → List Char → Prop) (close : Char) (rest : List Char) :
    List Char → List α → Prop
  /-- The closing sign follows. -/
  | none {s : List Char} : Padded s (close :: rest) → Further Item close rest s []
  /-- A comma and an item follow. -/
  | more {s t u : List Char} {a : α} {as : List α} : Padded s (',' :: t) → Item t a u →
      Further Item close rest u as → Further Item close rest s (a :: as)

/-- The text begins with items between two signs and goes on with the rest. -/
inductive Enclosed (Item : List Char → α → List Char → Prop) (first close : Char) :
    List Char → List α → List Char → Prop
  /-- There is no item. -/
  | empty {s rest : List Char} : Padded s (close :: rest) →
      Enclosed Item first close (first :: s) [] rest
  /-- There is an item, and there may be further ones. -/
  | items {s t rest : List Char} {a : α} {as : List α} : Item s a t →
      Further Item close rest t as → Enclosed Item first close (first :: s) (a :: as) rest

end Enclosed

/-- The text begins with an item of an array and goes on with the rest. -/
def IsItem (s v rest : List Char) : Prop := Padded s (v ++ rest)

/-- The text begins with a key, a colon and a value, and goes on with the rest. -/
def IsMember (s : List Char) (m : List Char × List Char) (rest : List Char) : Prop :=
  ∃ t u, Padded s (m.1 ++ t) ∧ Padded t (':' :: u) ∧ Padded u (m.2 ++ rest)

/-- The text begins with an array of values and goes on with the rest. -/
def IsArray : List Char → List (List Char) → List Char → Prop := Enclosed IsItem '[' ']'

/-- The text begins with an object of keys and values and goes on with the rest. -/
def IsObject : List Char → List (List Char × List Char) → List Char → Prop :=
  Enclosed IsMember '\x7b' '\x7d'

/-- Keys and the texts of values, with the keys as they are written. -/
def keyed (ms : List (String × List Char)) : List (List Char × List Char) :=
  ms.map fun m => (renderText m.1, m.2)

/-! ### Values -/

/-- The text of a value. -/
inductive IsValue : List Char → Prop
  /-- A word. -/
  | word {v : List Char} :
      v ∈ [['n', 'u', 'l', 'l'], ['t', 'r', 'u', 'e'], ['f', 'a', 'l', 's', 'e']] → IsValue v
  /-- A number. -/
  | number {v : List Char} {p : NumberParts} : NumberText p v → IsValue v
  /-- A string. -/
  | string {v : List Char} : IsString v → IsValue v
  /-- An array. -/
  | array {v : List Char} {vs : List (List Char)} : IsArray v vs [] → (∀ w ∈ vs, IsValue w) →
      IsValue v
  /-- An object. -/
  | object {v : List Char} {ms : List (List Char × List Char)} : IsObject v ms [] →
      (∀ m ∈ ms, IsString m.1) → (∀ m ∈ ms, IsValue m.2) → IsValue v

/-! ### Where a value begins and ends -/

/-- The text begins with a character that is no blank and no closing bracket, as all values do. -/
def Begins (v : List Char) : Prop := ∃ c v', v = c :: v' ∧ isBlank c = false ∧ c ≠ ']'

/-- The text does not go on with a number. -/
def Stops (rest : List Char) : Prop :=
  ∀ c ∈ rest.head?, isDigit c = false ∧ c ≠ '.' ∧ c ≠ 'e' ∧ c ≠ 'E'

variable {s t u v rest : List Char} {c : Char}

theorem Begins.skipBlanks_eq (h : Begins v) (hs : Padded s (v ++ rest)) :
    skipBlanks s = v ++ rest := by
  obtain ⟨c, v', rfl, hblank, -⟩ := h
  exact (padded_cons_iff hblank).1 hs

theorem Begins.padded_skipBlanks (h : Begins v) (hs : Padded s (v ++ rest)) :
    Padded (skipBlanks s) (v ++ rest) :=
  ⟨[], by simp, h.skipBlanks_eq hs⟩

theorem stops_nil : Stops [] := by simp [Stops]

theorem stops_of_isBlank (h : isBlank c = true) :
    isDigit c = false ∧ c ≠ '.' ∧ c ≠ 'e' ∧ c ≠ 'E' := by
  simp only [isBlank, Bool.or_eq_true, beq_iff_eq] at h
  rcases h with ((rfl | rfl) | rfl) | rfl <;> decide

theorem stops_of_padded (h : Padded s (c :: t)) (hc : c = ',' ∨ c = ']' ∨ c = '\x7d') :
    Stops s := by
  obtain ⟨w, hw, rfl⟩ := h
  intro d hd
  cases w with
  | nil =>
    obtain rfl := Option.some.inj hd
    rcases hc with rfl | rfl | rfl <;> decide
  | cons d' w =>
    obtain rfl := Option.some.inj hd
    exact stops_of_isBlank (hw _ List.mem_cons_self)

theorem NumberText.exists_cons {p : NumberParts} (h : NumberText p v) :
    ∃ c v', v = c :: v' ∧ (c == '-' || isDigit c) = true := by
  cases h with
  | @mk negative whole f e _ _ hwhole _ _ _ =>
    obtain ⟨d, ds, rfl⟩ := List.exists_cons_of_ne_nil hwhole.1
    cases negative with
    | true => exact ⟨'-', _, rfl, rfl⟩
    | false => exact ⟨d, _, rfl, by rw [hwhole.2 d List.mem_cons_self, Bool.or_true]⟩

theorem NumberText.begins {p : NumberParts} (h : NumberText p v) : Begins v := by
  obtain ⟨c, v', rfl, hc⟩ := h.exists_cons
  obtain hc | hc := Bool.or_eq_true_iff.1 hc
  · exact ⟨c, v', rfl, by rw [beq_iff_eq.1 hc]; decide, by rw [beq_iff_eq.1 hc]; decide⟩
  · refine ⟨c, v', rfl, isBlank_eq_false_of_isDigit hc, ?_⟩
    rintro rfl
    exact absurd hc (by decide)

theorem IsString.begins (h : IsString v) : Begins v := by
  obtain ⟨body, -, rfl⟩ := h
  exact ⟨_, _, rfl, by decide, by decide⟩

theorem Enclosed.exists_cons {α : Type} {Item : List Char → α → List Char → Prop}
    {first close : Char} {as : List α} (h : Enclosed Item first close v as rest) :
    ∃ v', v = first :: v' := by
  cases h <;> exact ⟨_, rfl⟩

theorem IsValue.begins (h : IsValue v) : Begins v := by
  cases h with
  | word h =>
    simp only [List.mem_cons, List.not_mem_nil, or_false] at h
    rcases h with rfl | rfl | rfl <;> exact ⟨_, _, rfl, by decide, by decide⟩
  | number h => exact h.begins
  | string h => exact h.begins
  | array h _ =>
    obtain ⟨v', rfl⟩ := h.exists_cons
    exact ⟨_, _, rfl, by decide, by decide⟩
  | object h _ _ =>
    obtain ⟨v', rfl⟩ := h.exists_cons
    exact ⟨_, _, rfl, by decide, by decide⟩

/-! ### Texts behind texts -/

section Enclosed

variable {α : Type} {Item : List Char → α → List Char → Prop} {first close : Char} {as : List α}

theorem Further.stops (h : Further Item close rest s as) (hclose : close = ']' ∨ close = '\x7d') :
    Stops s := by
  cases h with
  | none h => exact stops_of_padded h (.inr hclose)
  | more h _ _ => exact stops_of_padded h (.inl rfl)

theorem Further.append
    (hitem : ∀ {s t : List Char} {a : α} (u), Item s a t → Item (s ++ u) a (t ++ u))
    (h : Further Item close rest s as) (u : List Char) :
    Further Item close (rest ++ u) (s ++ u) as := by
  induction h with
  | none hclose => exact .none (hclose.append u)
  | more hcomma ha _ ih => exact .more (hcomma.append u) (hitem u ha) ih

theorem Enclosed.append
    (hitem : ∀ {s t : List Char} {a : α} (u), Item s a t → Item (s ++ u) a (t ++ u))
    (h : Enclosed Item first close s as rest) (u : List Char) :
    Enclosed Item first close (s ++ u) as (rest ++ u) := by
  cases h with
  | empty hclose => exact .empty (hclose.append u)
  | items ha h => exact .items (hitem u ha) (h.append hitem u)

end Enclosed

theorem IsItem.append (u : List Char) (h : IsItem s v t) : IsItem (s ++ u) v (t ++ u) := by
  have h := Padded.append h u
  rwa [List.append_assoc] at h

theorem IsMember.append {m : List Char × List Char} (u : List Char) (h : IsMember s m t) :
    IsMember (s ++ u) m (t ++ u) := by
  obtain ⟨t₁, t₂, hkey, hcolon, hvalue⟩ := h
  have hkey := hkey.append u
  have hvalue := hvalue.append u
  rw [List.append_assoc] at hkey hvalue
  exact ⟨t₁ ++ u, t₂ ++ u, hkey, hcolon.append u, hvalue⟩

theorem IsItem.length_le (h : IsItem s v t) : v.length + t.length ≤ s.length := by
  have h := h.suffix.length_le
  rwa [List.length_append] at h

theorem IsMember.length_lt {m : List Char × List Char} (h : IsMember s m t) :
    m.2.length + t.length < s.length := by
  obtain ⟨t₁, t₂, hkey, hcolon, hvalue⟩ := h
  have hkey := hkey.suffix.length_le
  have hcolon := hcolon.suffix.length_le
  have hvalue := hvalue.suffix.length_le
  simp only [List.length_append, List.length_cons] at hkey hcolon hvalue
  omega

theorem IsArray.append {vs : List (List Char)} (h : IsArray s vs rest) (u : List Char) :
    IsArray (s ++ u) vs (rest ++ u) := Enclosed.append IsItem.append h u

theorem IsObject.append {ms : List (List Char × List Char)} (h : IsObject s ms rest)
    (u : List Char) : IsObject (s ++ u) ms (rest ++ u) := Enclosed.append IsMember.append h u

/-! ### Compact texts -/

theorem renderItems_cons (v : Json) (vs : List Json) : ∃ t,
    renderItems (v :: vs) ++ [']'] = v.render ++ t ∧ Further IsItem ']' [] t (vs.map render) := by
  induction vs generalizing v with
  | nil => exact ⟨_, rfl, .none (.refl _)⟩
  | cons w vs ih =>
    obtain ⟨t, ht, hfurther⟩ := ih w
    refine ⟨',' :: (w.render ++ t), ?_, .more (.refl _) (.refl _) hfurther⟩
    rw [renderItems, List.append_assoc, List.cons_append, ht]
    exact List.cons_ne_nil w vs

theorem isArray_render (vs : List Json) : IsArray (list vs).render (vs.map render) [] := by
  cases vs with
  | nil => exact .empty (.refl _)
  | cons v vs =>
    obtain ⟨t, ht, hfurther⟩ := renderItems_cons v vs
    rw [render, List.cons_append, ht]
    exact .items (.refl _) hfurther

theorem renderMembers_cons (m : String × Json) (ms : List (String × Json)) : ∃ t,
    renderMembers (m :: ms) ++ ['\x7d'] = renderText m.1 ++ ':' :: (m.2.render ++ t) ∧
      Further IsMember '\x7d' [] t (ms.map fun m => (renderText m.1, m.2.render)) := by
  induction ms generalizing m with
  | nil =>
    refine ⟨_, ?_, .none (.refl _)⟩
    rw [renderMembers, List.append_assoc, List.cons_append]
  | cons m' ms ih =>
    obtain ⟨t, ht, hfurther⟩ := ih m'
    refine ⟨',' :: (renderText m'.1 ++ ':' :: (m'.2.render ++ t)), ?_,
      .more (.refl _) ⟨_, _, .refl _, .refl _, .refl _⟩ hfurther⟩
    rw [renderMembers, List.append_assoc, List.append_assoc, List.cons_append, List.cons_append, ht]
    exact List.cons_ne_nil m' ms

theorem isObject_render (ms : List (String × Json)) :
    IsObject (object ms).render (keyed (ms.map fun m => (m.1, m.2.render))) [] := by
  rw [keyed, List.map_map]
  cases ms with
  | nil => exact .empty (.refl _)
  | cons m ms =>
    obtain ⟨t, ht, hfurther⟩ := renderMembers_cons m ms
    rw [render, List.cons_append, ht]
    exact .items ⟨_, _, .refl _, .refl _, .refl _⟩ hfurther

end Json

end FleetQuery

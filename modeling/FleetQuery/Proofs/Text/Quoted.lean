import FleetQuery.Proofs.Text.Run
import FleetQuery.Text.Quoted
import Mathlib.Data.List.Basic
import Mathlib.Data.Nat.Digits.Defs

/-!
# Quoted text can be read in one way

Every character of quoted text is written so that the reader knows where it ends: a backslash and a
letter, a code point between braces, or the character itself.  Which characters are spelled by their
code points does not matter for it.

* `hexadecimal_injective` : different numbers have different digits;
* `quotedChar_append_inj` : no character is written like the beginning of another one;
* `flatMap_quotedChar_inj` : **quoted text stands for one text only**, whatever follows it.
-/

namespace FleetQuery

variable {c d : Char} {m n : Nat} {p q s t : List Char}

/-! ### Code points -/

theorem digitChar_injOn : ∀ i < 16, ∀ j < 16, Nat.digitChar i = Nat.digitChar j → i = j := by decide

/-- **Different numbers have different digits**, by induction on the number: the last digits are the
same, and so are those before. -/
theorem hexadecimal_injective (h : hexadecimal m = hexadecimal n) : m = n := by
  unfold hexadecimal at h
  induction m using Nat.strongRecOn generalizing n with
  | _ m ih =>
    rw [Nat.toDigits_eq_if (by decide), Nat.toDigits_eq_if (n := n) (by decide)] at h
    split_ifs at h with hm hn hn
    · exact digitChar_injOn m hm n hn (List.singleton_inj.1 h)
    · have hnil : Nat.toDigits 16 (n / 16) = [] := by simpa using (congrArg List.dropLast h).symm
      exact absurd hnil Nat.toDigits_ne_nil
    · have hnil : Nat.toDigits 16 (m / 16) = [] := by simpa using congrArg List.dropLast h
      exact absurd hnil Nat.toDigits_ne_nil
    · obtain ⟨hinit, hlast⟩ := List.append_inj' h rfl
      have hdiv : m / 16 = n / 16 := ih (m / 16) (by omega) hinit
      have hmod : m % 16 = n % 16 := digitChar_injOn _ (Nat.mod_lt _ (by decide)) _
        (Nat.mod_lt _ (by decide)) (List.singleton_inj.1 hlast)
      omega

theorem brace_not_mem_hexadecimal (n : Nat) : '\x7d' ∉ hexadecimal n := by
  have hdigit : ∀ i < 16, '\x7d' ≠ Nat.digitChar i := by decide
  unfold hexadecimal
  induction n using Nat.strongRecOn with
  | _ n ih =>
    rw [Nat.toDigits_eq_if (by decide)]
    split_ifs with hn
    · exact fun hmem => hdigit n hn (List.mem_singleton.1 hmem)
    · intro hmem
      rcases List.mem_append.1 hmem with hmem | hmem
      · exact ih (n / 16) (by omega) hmem
      · exact hdigit _ (Nat.mod_lt _ (by decide)) (List.mem_singleton.1 hmem)

theorem hexadecimal_append_inj (h : hexadecimal m ++ '\x7d' :: s = hexadecimal n ++ '\x7d' :: t) :
    m = n ∧ s = t := by
  have hrun : ∀ k u, LongestRun (· != '\x7d') (hexadecimal k) ('\x7d' :: u) := by
    refine fun k u => ⟨fun x hx => ?_, fun x hx => ?_⟩
    · exact bne_iff_ne.2 fun hbrace => brace_not_mem_hexadecimal k (hbrace ▸ hx)
    · cases hx
      rfl
  have hdigits : hexadecimal m = hexadecimal n := by
    rw [← (hrun m s).takeWhile_eq, h, (hrun n t).takeWhile_eq]
  have hrest : '\x7d' :: s = '\x7d' :: t := by
    rw [← (hrun m s).dropWhile_eq, h, (hrun n t).dropWhile_eq]
  exact ⟨hexadecimal_injective hdigits, (List.cons.inj hrest).2⟩

/-! ### Characters -/

/-- The character that a backslash and a letter stand for. -/
def letterEscape? : Char → Option Char
  | '0' => some '\x00'
  | 't' => some '\t'
  | 'r' => some '\r'
  | 'n' => some '\n'
  | '\\' => some '\\'
  | '"' => some '"'
  | _ => none

/-- A character is written as a backslash and a letter, by its code point, or as itself. -/
theorem quotedChar_cases (c : Char) :
    (∃ k, letterEscape? k = some c ∧ quotedChar c = ['\\', k]) ∨
      quotedChar c = codePointEscape c ∨ c ≠ '\\' ∧ c ≠ '"' ∧ quotedChar c = [c] := by
  by_cases hletter : c ∈ ['\x00', '\t', '\r', '\n', '\\', '"']
  · simp only [List.mem_cons, List.not_mem_nil, or_false] at hletter
    rcases hletter with rfl | rfl | rfl | rfl | rfl | rfl
    all_goals exact .inl ⟨_, rfl, rfl⟩
  · simp only [List.mem_cons, List.not_mem_nil, or_false, not_or] at hletter
    obtain ⟨hnull, htab, hreturn, hline, hbackslash, hquote⟩ := hletter
    simp only [quotedChar, beq_iff_eq, Bool.or_eq_true, hnull, htab, hreturn, hline, hbackslash,
      hquote, or_self, if_false]
    split_ifs
    · exact .inr (.inl rfl)
    · exact .inr (.inr ⟨hbackslash, hquote, rfl⟩)

/-- **No character is written like the beginning of another one.** -/
theorem quotedChar_append_inj (h : quotedChar c ++ s = quotedChar d ++ t) : c = d ∧ s = t := by
  rcases quotedChar_cases c with ⟨k, hk, hc⟩ | hc | ⟨hc', -, hc⟩ <;>
    rcases quotedChar_cases d with ⟨l, hl, hd⟩ | hd | ⟨hd', -, hd⟩ <;>
    rw [hc, hd] at h
  · obtain ⟨rfl, rfl⟩ : k = l ∧ s = t := by simpa using h
    exact ⟨Option.some.inj (hk.symm.trans hl), rfl⟩
  -- no letter is the `u` before a code point, and what stands for itself is no backslash
  · obtain ⟨rfl, -⟩ : k = 'u' ∧ _ := by simpa [codePointEscape] using h
    cases hk
  · exact absurd (List.cons.inj h).1.symm hd'
  · obtain ⟨rfl, -⟩ : 'u' = l ∧ _ := by simpa [codePointEscape] using h
    cases hl
  · have hdigits : hexadecimal c.toNat ++ '\x7d' :: s = hexadecimal d.toNat ++ '\x7d' :: t := by
      simpa [codePointEscape] using h
    obtain ⟨hnat, hst⟩ := hexadecimal_append_inj hdigits
    exact ⟨Char.toNat_inj.1 hnat, hst⟩
  · exact absurd (List.cons.inj h).1.symm hd'
  · exact absurd (List.cons.inj h).1 hc'
  · exact absurd (List.cons.inj h).1 hc'
  · exact List.cons.inj h

/-! ### Texts -/

theorem quotedChar_append_ne_quote : quotedChar c ++ s ≠ '"' :: t := by
  rcases quotedChar_cases c with ⟨k, -, hc⟩ | hc | ⟨-, hquote, hc⟩ <;> rw [hc]
  · simp
  · simp [codePointEscape]
  · simpa using fun h _ => hquote h

/-- **Quoted text stands for one text only**, by induction on the text, and its closing quote is
found again. -/
theorem flatMap_quotedChar_inj
    (h : p.flatMap quotedChar ++ '"' :: s = q.flatMap quotedChar ++ '"' :: t) : p = q ∧ s = t := by
  induction p generalizing q with
  | nil =>
    obtain - | ⟨d, q⟩ := q
    · exact ⟨rfl, (List.cons.inj h).2⟩
    · rw [List.flatMap_cons, List.append_assoc] at h
      exact absurd h.symm quotedChar_append_ne_quote
  | cons c p ih =>
    obtain - | ⟨d, q⟩ := q
    · rw [List.flatMap_cons, List.append_assoc] at h
      exact absurd h quotedChar_append_ne_quote
    · rw [List.flatMap_cons, List.flatMap_cons, List.append_assoc, List.append_assoc] at h
      obtain ⟨rfl, hrest⟩ := quotedChar_append_inj h
      obtain ⟨rfl, rfl⟩ := ih hrest
      exact ⟨rfl, rfl⟩

end FleetQuery

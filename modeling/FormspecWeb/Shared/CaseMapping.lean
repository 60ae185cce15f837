import FormspecWeb.Shared.Text

/-!
# Case mappings

`toLowerCase` and a case-insensitive pattern read the same character tables, and differ where a
character beyond ASCII maps to one within it: lower-casing follows such a mapping, a pattern does
not. On a text that holds no letter such a character maps to, they agree (`isPrefix_toLowerCase`).
-/

namespace FormspecWeb.Shared

def isAscii (c : Char) : Bool := c.toNat < 128

structure CaseMapping where
  /-- The lower case of a character, which may depend on those before and after it. -/
  lower : List Char → Char → List Char → List Char
  upper : Char → List Char
  lower_ascii : ∀ before c after, isAscii c → lower before c after = [c.toLower]
  upper_ascii : ∀ c, isAscii c → upper c = [c.toUpper]
  /-- The Kelvin sign and the dotted capital I lead into ASCII, and nothing else does. -/
  lower_other : ∀ before c after, isAscii c = false →
    ∃ first rest, lower before c after = first :: rest
      ∧ (isAscii first → first = 'k' ∨ first = 'i')

namespace CaseMapping

def lowerFrom (mapping : CaseMapping) (before : List Char) : List Char → List Char
  | [] => []
  | c :: after => mapping.lower before c after ++ mapping.lowerFrom (before ++ [c]) after

def toLowerCase (mapping : CaseMapping) (value : List Char) : List Char := mapping.lowerFrom [] value

/-- A character as a case-insensitive pattern without the `u` flag compares it. -/
def canonicalize (mapping : CaseMapping) (c : Char) : Char :=
  match mapping.upper c with
  | [u] => if !isAscii c && isAscii u then c else u
  | _ => c

/-- A `/^…/i` of a literal text. -/
def startsIgnoringCase (mapping : CaseMapping) : List Char → List Char → Bool
  | [], _ => true
  | _ :: _, [] => false
  | p :: ps, c :: cs =>
    mapping.canonicalize p == mapping.canonicalize c && mapping.startsIgnoringCase ps cs

/-- A lower-case character of ASCII that no character beyond ASCII maps to. -/
def isStable (c : Char) : Bool := isAscii c && c.toLower == c && c != 'k' && c != 'i'

theorem ascii_cases (c : Char) (h : isAscii c) :
    c.toUpper.toLower = c.toLower ∧ c.toLower.toUpper = c.toUpper ∧ isAscii c.toUpper := by
  have hall : ∀ n : Fin 128, (Char.ofNat n).toUpper.toLower = (Char.ofNat n).toLower
      ∧ (Char.ofNat n).toLower.toUpper = (Char.ofNat n).toUpper
      ∧ isAscii (Char.ofNat n).toUpper := by
    decide
  have hn : c.toNat < 128 := by simpa [isAscii] using h
  have hc := hall ⟨c.toNat, hn⟩
  rwa [Char.ofNat_toNat] at hc

theorem stable_match {p c : Char} (hp : isStable p) (hc : isAscii c) :
    p = c.toLower ↔ p.toUpper = c.toUpper := by
  simp only [isStable, Bool.and_eq_true, beq_iff_eq] at hp
  constructor
  · intro h
    rw [h, (ascii_cases c hc).2.1]
  · intro h
    rw [← hp.1.1.2, ← (ascii_cases p hp.1.1.1).1, h, (ascii_cases c hc).1]

theorem canonicalize_ascii (mapping : CaseMapping) {c : Char} (h : isAscii c) :
    mapping.canonicalize c = c.toUpper := by
  rw [canonicalize, mapping.upper_ascii c h]
  simp [h]

theorem canonicalize_other (mapping : CaseMapping) {c : Char} (h : isAscii c = false) :
    isAscii (mapping.canonicalize c) = false := by
  unfold canonicalize
  split
  · rename_i u _
    cases hu : isAscii u with
    | true => simp [h]
    | false => simp [hu]
  · exact h

theorem isPrefix_lowerFrom (mapping : CaseMapping) (lead before value : List Char)
    (hlead : lead.all isStable) :
    lead.isPrefixOf (mapping.lowerFrom before value) = mapping.startsIgnoringCase lead value := by
  induction lead generalizing before value with
  | nil => rw [startsIgnoringCase, List.isPrefixOf_nil_left]
  | cons p ps ih =>
    simp only [List.all_cons, Bool.and_eq_true] at hlead
    have hp : isAscii p := by
      have := hlead.1
      simp only [isStable, Bool.and_eq_true] at this
      exact this.1.1.1
    cases value with
    | nil => rfl
    | cons c after =>
      by_cases hc : isAscii c
      · rw [lowerFrom, mapping.lower_ascii before c after hc, List.singleton_append,
          List.isPrefixOf_cons_cons, startsIgnoringCase, ih _ _ hlead.2,
          mapping.canonicalize_ascii hp, mapping.canonicalize_ascii hc]
        congr 1
        rw [Bool.eq_iff_iff, beq_iff_eq, beq_iff_eq]
        exact stable_match hlead.1 hc
      · have hother : isAscii c = false := by simpa using hc
        obtain ⟨first, rest, hlower, hfirst⟩ := mapping.lower_other before c after hother
        have hne : (p == first) = false := by
          rw [beq_eq_false_iff_ne]
          rintro rfl
          have hstable := hlead.1
          simp only [isStable, Bool.and_eq_true, bne_iff_ne] at hstable
          exact (hfirst hp).elim hstable.1.2 hstable.2
        have hcanon : (mapping.canonicalize p == mapping.canonicalize c) = false := by
          rw [beq_eq_false_iff_ne]
          intro heq
          have := mapping.canonicalize_other hother
          rw [← heq, mapping.canonicalize_ascii hp, (ascii_cases p hp).2.2] at this
          cases this
        rw [lowerFrom, hlower, List.cons_append, List.isPrefixOf_cons_cons, startsIgnoringCase,
          hne, hcanon, Bool.false_and, Bool.false_and]

theorem isPrefix_toLowerCase (mapping : CaseMapping) (lead value : List Char)
    (hlead : lead.all isStable) :
    lead.isPrefixOf (mapping.toLowerCase value) = mapping.startsIgnoringCase lead value :=
  mapping.isPrefix_lowerFrom lead [] value hlead

end CaseMapping

end FormspecWeb.Shared

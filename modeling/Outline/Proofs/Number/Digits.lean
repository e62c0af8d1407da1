import Outline.Number.Read
import Outline.Proofs.Ends

namespace Outline.Number

-- There are that many digits in a row somewhere in the text, and more than are read.
def Error.IsLong (cs : List Char) : Error → Prop
  | tooLong n => digitLimit < n ∧ ∃ ds, ds <:+: cs ∧ (∀ d ∈ ds, d.isDigit) ∧ ds.length = n
  | _         => False

theorem Error.IsLong.mono {cs cs' : List Char} {e : Error} (h : e.IsLong cs) (hs : cs <:+: cs') :
    e.IsLong cs' := by
  match e, h with
  | tooLong _, ⟨long, ds, inside, run⟩ => exact ⟨long, ds, inside.trans hs, run⟩

theorem toNat_of_isDigit {c : Char} (h : c.isDigit) : 48 ≤ c.toNat ∧ c.toNat ≤ 57 :=
  Char.isDigit_iff_toNat.mp h

theorem digitIn?_of_isDigit {c : Char} (h : c.isDigit) : digitIn? 10 c = some (c.toNat - 48) := by
  have range := toNat_of_isDigit h
  have ascii : c.toNat < 128 := by omega
  have low : c.toNat - 48 < 10 := by omega
  simp [digitIn?, Text.digitValue?, ascii, h, low]

theorem not_isBlank_of_isDigit {c : Char} (h : c.isDigit) : Text.isBlank c = false := by
  have range := toNat_of_isDigit h
  simp [Text.isBlank]
  omega

theorem trimBy_isBlank_of_digits {ds : List Char} (h : ∀ d ∈ ds, d.isDigit) :
    Text.trimBy Text.isBlank ds = ds := by
  have keep {cs : List Char} (hc : ∀ d ∈ cs, d.isDigit) : cs.dropWhile Text.isBlank = cs :=
    Text.dropWhile_eq_self fun c _ hd => not_isBlank_of_isDigit (hc c (by simp [hd]))
  rw [Text.trimBy, keep h, keep (by simpa using h), List.reverse_reverse]

theorem unsign_of_digits {ds : List Char} (h : ∀ d ∈ ds, d.isDigit) : unsign ds = (false, ds) := by
  fun_cases unsign
  case case1 => simpa using h '-' (List.mem_cons_self ..)
  case case2 => simpa using h '+' (List.mem_cons_self ..)
  case case3 => rfl

theorem dropBase_ten (cs : List Char) : dropBase 10 cs = cs := by
  unfold dropBase
  split
  · exact if_neg (by simp [List.lookup_cons])
  · rfl

theorem digitsWithLowLines?_go_of_digits {ds : List Char} (h : ∀ d ∈ ds, d.isDigit) (value count : Nat)
    (afterDigit : Bool) (ha : afterDigit ∨ ds ≠ []) :
    ∃ n, digitsWithLowLines?.go 10 value count afterDigit ds = some (n, count + ds.length) := by
  induction ds generalizing value count afterDigit
  case nil =>
    obtain rfl : afterDigit = true := by simpa using ha
    exact ⟨value, rfl⟩
  case cons d ds hi =>
    have ⟨hd, hds⟩ := List.forall_mem_cons.mp h
    have ⟨n, hn⟩ := hi hds (value * 10 + (d.toNat - 48)) (count + 1) true (.inl rfl)
    have notLowLine : d ≠ '_' := by rintro rfl; contradiction
    refine ⟨n, ?_⟩
    rw [digitsWithLowLines?.go, digitIn?_of_isDigit hd]
    · simp only [hn, List.length_cons, Option.some.injEq, Prod.mk.injEq, true_and]
      omega
    · simpa using notLowLine

-- Digits alone are an integer, unless there are too many of them.
theorem readInt_of_digits {ds : List Char} (h : ∀ d ∈ ds, d.isDigit) (hne : ds ≠ []) :
    Ends (fun _ => True) (Error.IsLong ds) (readInt (String.ofList ds)) := by
  have ⟨n, hn⟩ := digitsWithLowLines?_go_of_digits h 0 0 false (.inr hne)
  have all : digitsWithLowLines? 10 ds = some (n, ds.length) := by simpa [digitsWithLowLines?] using hn
  unfold readInt readIntIn
  simp only [String.toList_ofList, trimBy_isBlank_of_digits h, unsign_of_digits h, dropBase_ten, all]
  split
  case isTrue long =>
    have long := (Bool.and_eq_true_iff.mp long).1
    exact ⟨by simpa using long, ds, List.infix_refl _, h, rfl⟩
  case isFalse => trivial

end Outline.Number

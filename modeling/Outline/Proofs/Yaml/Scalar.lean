import Outline.Proofs.Number.Digits
import Outline.Yaml.Scalar

namespace Outline.Yaml

-- The text holds what such a fault comes from; faults in the meaning of scalars come from no text.
def Fault.ShowsIn (cs : List Char) : Fault → Prop
  | malformed     => True
  | codePoint     => ['\\', 'U'] <:+: cs
  | codePointSize => ['\\', 'U'] <:+: cs
  | number e      => e.IsLong cs
  | _             => False

theorem Fault.ShowsIn.mono {cs cs' : List Char} {f : Fault} (h : f.ShowsIn cs) (hs : cs <:+: cs') :
    f.ShowsIn cs' := by
  cases f
  case malformed     => trivial
  case codePoint     => exact List.IsInfix.trans h hs
  case codePointSize => exact List.IsInfix.trans h hs
  case number        => exact Number.Error.IsLong.mono h hs
  all_goals exact h.elim

namespace Cursor

-- Of the text that is left at one place, no more than an end is left at another.
def Follows (c' c : Cursor) : Prop := c'.rest <:+ c.rest

namespace Follows

variable {c c' c'' : Cursor}

theorem refl (c : Cursor) : c.Follows c :=
  List.suffix_refl _

theorem trans (h : c''.Follows c') (h' : c'.Follows c) : c''.Follows c :=
  List.IsSuffix.trans h h'

end Follows

variable {c c' : Cursor} {p : Char → Bool}

theorem next_rest (c : Cursor) : c.next.rest = c.rest.drop 1 := by
  unfold next
  split
  case h_1 h => simp [h]
  case h_2 h => split <;> simp [h]

theorem advance_rest (n : Nat) (c : Cursor) : (c.advance n).rest = c.rest.drop n := by
  induction n generalizing c
  case zero => rfl
  case succ n hi => rw [advance, hi, next_rest, List.drop_drop, Nat.add_comm]

theorem next_follows (c : Cursor) : c.next.Follows c := by
  rw [Follows, next_rest]
  exact List.drop_suffix ..

theorem advance_follows (n : Nat) (c : Cursor) : (c.advance n).Follows c := by
  rw [Follows, advance_rest]
  exact List.drop_suffix ..

theorem skip_follows (p : Char → Bool) (c : Cursor) : (c.skip p).Follows c :=
  advance_follows ..

theorem lineBreak?_follows {b : Char} (h : c.lineBreak? = some (b, c')) : c'.Follows c := by
  revert h
  fun_cases lineBreak? with
  | case1 => rintro ⟨⟩; exact advance_follows ..
  | case2 => rintro ⟨⟩; exact next_follows _
  | case3 => rintro ⟨⟩; exact next_follows _
  | _     => exact nofun

theorem restOfLine?_follows (h : c.restOfLine? = some c') : c'.Follows c := by
  unfold restOfLine? at h
  extract_lets c₁ c₂ at h
  have first : c₁.Follows c := skip_follows ..
  have second : c₂.Follows c := by
    unfold c₂
    split
    · exact (skip_follows ..).trans first
    · exact first
  split at h
  case h_1 hb =>
    obtain rfl := by simpa using h
    exact (lineBreak?_follows hb).trans second
  case h_2 =>
    split at h
    · obtain rfl := by simpa using h
      exact second
    · contradiction

end Cursor

open Cursor

-- Reading from a place goes on to a later one, unless there is a fault that shows in the text
-- between.
def Reads (c : Cursor) (x : Except Fault (α × Cursor)) : Prop :=
  Ends (·.2.Follows c) (Fault.ShowsIn c.rest) x

namespace Reads

variable {c c' : Cursor} {α β : Type}

theorem mono {x : Except Fault (α × Cursor)} (h : Reads c' x) (hc : c'.Follows c) : Reads c x :=
  h.imp (fun _ hr => hr.trans hc) fun _ hf => hf.mono hc.isInfix

theorem bind {x : Except Fault (α × Cursor)} {f : α × Cursor → Except Fault (β × Cursor)}
    (h : Reads c x) (hf : ∀ a c', Reads c' (f (a, c'))) : Reads c (x >>= f) :=
  Ends.bind h fun r hr => (hf r.1 r.2).mono hr

end Reads

namespace Scalar

theorem emptyLines_reads (done : List Char) (fuel : Nat) (c : Cursor) :
    Reads c (emptyLines done fuel c) := by
  fun_induction emptyLines with
  | case3 done fuel c _ c₁ b c₂ hb hi =>
    exact hi.mono <| (lineBreak?_follows hb).trans <| skip_follows ..
  | case4 => exact skip_follows ..
  | _ => trivial

theorem hexValue?_lt {c : Char} {n : Nat} (h : Text.hexValue? c = some n) : n < 16 := by
  revert h
  fun_cases Text.hexValue? with
  | case1 h =>
    rintro ⟨⟩
    have := Number.toNat_of_isDigit h
    omega
  | case2 _ h =>
    rintro ⟨⟩
    have : c.toNat ≤ 102 := (by simpa using h : 'a' ≤ c ∧ c ≤ 'f').2
    omega
  | case3 _ _ h =>
    rintro ⟨⟩
    have : c.toNat ≤ 70 := (by simpa using h : 'A' ≤ c ∧ c ≤ 'F').2
    omega
  | case4 => exact nofun

theorem digits_lt {cs : List Char} {ds : List Nat} (h : cs.mapM Text.hexValue? = some ds) (n : Nat) :
    ds.foldl (fun n d => n * 16 + d) n < (n + 1) * Nat.pow 16 cs.length := by
  induction cs generalizing ds n
  case nil =>
    obtain rfl : ds = [] := by simpa using h.symm
    simp
  case cons c cs hi =>
    rw [List.mapM_cons] at h
    have ⟨d, hd, h⟩ := Option.bind_eq_some_iff.mp h
    have ⟨rest, hr, h⟩ := Option.bind_eq_some_iff.mp h
    obtain rfl : d :: rest = ds := by simpa using h
    have := hexValue?_lt hd
    calc (d :: rest).foldl (fun n d => n * 16 + d) n
      _ < (n * 16 + d + 1) * Nat.pow 16 cs.length := hi hr (n * 16 + d)
      _ ≤ (n + 1) * 16 * Nat.pow 16 cs.length     := Nat.mul_le_mul_right _ (by omega)
      _ = (n + 1) * (16 * Nat.pow 16 cs.length)   := Nat.mul_assoc ..
      _ = (n + 1) * Nat.pow 16 (c :: cs).length   := congrArg _ Nat.pow_succ'.symm

-- Four digits are too few for a number that no character has.
theorem codePoint_ends {width : Nat} (cs : List Char) (h : width ≤ 4) :
    Ends (fun _ => True) (· = .malformed) (codePoint width cs) := by
  have small {ds : List Nat} (hd : (cs.take width).mapM Text.hexValue? = some ds) :
      ds.foldl (fun n d => n * 16 + d) 0 < 2 ^ 16 :=
    calc ds.foldl (fun n d => n * 16 + d) 0
      _ < (0 + 1) * Nat.pow 16 (cs.take width).length := digits_lt hd 0
      _ ≤ (0 + 1) * Nat.pow 16 4                      :=
        Nat.mul_le_mul_left _ <| Nat.pow_le_pow_right (by decide) <|
          Nat.le_trans (List.length_take_le ..) h
  fun_cases codePoint
  case case3 hd n _ hn =>
    have : n < 2 ^ 16 := small hd
    exact absurd hn <| Nat.not_le_of_lt <| Nat.lt_trans this (by decide)
  case case4 hd n _ _ hn =>
    have : n < 2 ^ 16 := small hd
    omega
  all_goals trivial

theorem escape_ends {e : Char} {width : Nat} (h : escapeWidth? e = some width) (cs : List Char) :
    Ends (fun _ => True) (Fault.ShowsIn ('\\' :: e :: cs)) (codePoint width cs) := by
  have short (hw : width ≤ 4) :
      Ends (fun _ => True) (Fault.ShowsIn ('\\' :: e :: cs)) (codePoint width cs) :=
    (codePoint_ends cs hw).imp (fun _ _ => trivial) fun f (hf : f = .malformed) => hf ▸ trivial
  unfold escapeWidth? at h
  split at h
  case h_1 => exact short (by cases h; decide)
  case h_2 => exact short (by cases h; decide)
  case h_3 =>
    have shows : ['\\', 'U'] <:+: '\\' :: 'U' :: cs := ⟨[], cs, rfl⟩
    fun_cases codePoint
    case case3 => exact shows
    case case4 => exact shows
    all_goals trivial
  case h_4 => contradiction

theorem quotedFrom_reads (quote : Char) (done : List Char) (fuel : Nat) (c : Cursor) :
    Reads c (quotedFrom quote done fuel c) := by
  fun_induction quotedFrom
  case case3 hi => exact hi.mono <| advance_follows ..
  case case4 => exact next_follows _
  case case5 hb hi =>
    exact ((emptyLines_reads ..).bind hi).mono <| (lineBreak?_follows hb).trans <| advance_follows ..
  case case6 hi => exact hi.mono <| advance_follows ..
  case case8 hi => exact hi.mono <| (next_follows _).trans <| next_follows _
  case case9 c d _ _ hd _ e digits width hw _ hc hi =>
    obtain rfl : d = '\\' := by simp_all
    have shows : Ends (fun _ => True) (Fault.ShowsIn c.rest) (codePoint width digits) :=
      hc ▸ escape_ends hw digits
    exact shows.bind fun f _ => (hi f).mono <| (advance_follows ..).trans <| next_follows _
  case case10 hb _ _ _ hi =>
    exact ((emptyLines_reads ..).bind hi).mono <| (lineBreak?_follows hb).trans <| next_follows _
  case case12 hi => exact hi.mono <| next_follows _
  all_goals trivial

theorem quoted_reads (quote : Char) (c : Cursor) : Reads c (quoted quote c) :=
  (quotedFrom_reads ..).mono <| next_follows _

theorem plainLines_follows (done : List Char) (fuel : Nat) (c : Cursor) :
    (plainLines done fuel c).2.Follows c := by
  fun_induction plainLines
  case case1 => exact .refl _
  case case2 => exact .refl _
  case case3 hb hi => exact hi.trans <| (lineBreak?_follows hb).trans <| skip_follows ..
  case case4 => exact skip_follows ..

theorem plainGap_follows {c c' : Cursor} {gap : List Char} {atStart : Bool}
    (h : plainGap c = (gap, atStart, c')) : c'.Follows c := by
  obtain rfl : (plainGap c).2.2 = c' := congrArg (·.2.2) h
  unfold plainGap
  extract_lets blanks c₁
  have first : c₁.Follows c := advance_follows ..
  split
  case h_1 b c₂ hb =>
    have lines := plainLines_follows [] (c₂.rest.length + 1) c₂
    have second := (lineBreak?_follows hb).trans first
    split <;> rename_i hl <;> rw [hl] at lines <;> exact lines.trans second
  case h_2 => exact first

theorem plainFrom_follows (inFlow : Bool) (indent : Int) (done gap : List Char) (atStart : Bool)
    (fuel : Nat) (c : Cursor) : (plainFrom inFlow indent done gap atStart fuel c).2.2.Follows c := by
  fun_induction plainFrom
  case case1 => exact .refl _
  case case2 => exact .refl _
  case case3 hg _    => exact (plainGap_follows hg).trans <| advance_follows ..
  case case4 hg _ hi => exact hi.trans <| (plainGap_follows hg).trans <| advance_follows ..

theorem plain_follows (inFlow : Bool) (indent : Int) (c : Cursor) :
    (plain inFlow indent c).2.2.Follows c :=
  plainFrom_follows ..

theorem header_follows (c : Cursor) : (header c).2.2.Follows c := by
  unfold header
  extract_lets digit?
  have digit (c : Cursor) : (digit? c).2.Follows c := by
    unfold digit?
    split
    · split
      · exact next_follows _
      · exact .refl _
    · exact .refl _
  split
  case h_1 => exact (digit _).trans <| next_follows _
  case h_2 =>
    have here := digit c
    split
    case h_1 hd =>
      rw [hd] at here
      split
      · exact (next_follows _).trans here
      · exact here
    case h_2 hd =>
      rw [hd] at here
      exact here

theorem leadingLines_follows {done breaks : List Char} {deepest deepest' fuel : Nat} {c c' : Cursor}
    (h : leadingLines done deepest fuel c = (breaks, deepest', c')) : c'.Follows c := by
  obtain rfl : (leadingLines done deepest fuel c).2.2 = c' := congrArg (·.2.2) h
  clear h
  fun_induction leadingLines
  case case1 => exact .refl _
  case case2 hb hi => exact hi.trans <| (lineBreak?_follows hb).trans <| skip_follows ..
  case case3 => exact skip_follows ..

theorem emptyBlockLines_follows {column fuel : Nat} {done breaks : List Char} {c c' : Cursor}
    (h : emptyBlockLines column done fuel c = (breaks, c')) : c'.Follows c := by
  obtain rfl : (emptyBlockLines column done fuel c).2 = c' := congrArg Prod.snd h
  clear h
  fun_induction emptyBlockLines
  case case1 => exact .refl _
  case case2 hb hi => exact hi.trans <| (lineBreak?_follows hb).trans <| advance_follows ..
  case case3 => exact advance_follows ..

theorem lineEnd_follows {c c' : Cursor} {break? : Option Char}
    (h : (match c.lineBreak? with
      | some (b, c) => (some b, c)
      | none        => (none, c)) = (break?, c')) : c'.Follows c := by
  split at h <;> obtain ⟨-, rfl⟩ := Prod.mk.inj h
  case h_1 hb => exact lineBreak?_follows hb
  case h_2    => exact .refl _

theorem blockLines_follows (folded : Bool) (column : Nat) (done breaks : List Char) (fuel : Nat)
    (c : Cursor) : (blockLines folded column done breaks fuel c).2.2.2.Follows c := by
  fun_induction blockLines
  case case1 => exact .refl _
  case case2 hb _ _ he _ _ hi =>
    have line := (lineEnd_follows hb).trans <| advance_follows ..
    exact hi.trans <| (emptyBlockLines_follows he).trans line
  case case3 hb _ _ he _ =>
    have line := (lineEnd_follows hb).trans <| advance_follows ..
    exact (emptyBlockLines_follows he).trans line

theorem block_reads (folded : Bool) (indent : Nat) (c : Cursor) : Reads c (block folded indent c) := by
  fun_cases block
  case case3 chomping increment? c₁ h₁ _ c₂ h₂ column leading c₃ h₃ done break? breaks c₄ h₄ _ =>
    have first : c₁.Follows c.next := by simpa [h₁] using header_follows c.next
    have third : c₃.Follows c₂ := by
      split at h₃ <;> obtain ⟨-, -, rfl⟩ := by simpa only [Prod.mk.injEq] using h₃
      · exact emptyBlockLines_follows rfl
      · exact leadingLines_follows rfl
    have last : c₄.Follows c₃ := by
      split at h₄
      · simpa [h₄] using blockLines_follows folded column [] leading (c₃.rest.length + 1) c₃
      · obtain ⟨-, -, -, rfl⟩ := by simpa only [Prod.mk.injEq] using h₄
        exact .refl _
    exact last.trans <| third.trans <| (restOfLine?_follows h₂).trans <| first.trans <| next_follows _
  all_goals trivial

end Scalar
end Outline.Yaml

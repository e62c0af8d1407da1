import Mathlib.Data.List.TakeWhile
import Outline.Json.Reader
import Outline.Proofs.Number.Digits

namespace Outline

namespace Value

-- Data that can be written in JSON.
inductive Plain : Value → Prop
  | null                                        : Plain .null
  | bool {b : Bool}                             : Plain (.bool b)
  | int {i : Int}                               : Plain (.int i)
  | float {x : Double}                          : Plain (.float x)
  | text {s : String}                           : Plain (.text s)
  | list {vs} (items : ∀ v ∈ vs, Plain v)       : Plain (.list vs)
  | map {es} (entries : ∀ e ∈ es, Plain e.2)    : Plain (.map es)

theorem Plain.of_lookup {es : List (String × Value)} {key : String} {v : Value} (h : Plain (.map es))
    (hv : es.lookup key = some v) : Plain v := by
  cases h with
  | map entries => exact entries _ <| mem_of_lookup hv

end Value

namespace Json

-- If it is a number that stops the reading of a text, then one with too many digits.
def Stop.IsLong (cs : List Char) : Stop → Prop
  | fault .. => True
  | number e => e.IsLong cs

def Error.IsLong (cs : List Char) : Error → Prop
  | malformed .. => True
  | number e     => e.IsLong cs

def Stop.IsFault : Stop → Prop
  | fault .. => True
  | number _ => False

theorem Stop.IsLong.mono {cs cs' : List Char} {s : Stop} (h : s.IsLong cs) (hs : cs <:+ cs') :
    s.IsLong cs' := by
  cases s
  case fault  => trivial
  case number => exact Number.Error.IsLong.mono h hs.isInfix

theorem Stop.IsFault.isLong {cs : List Char} {s : Stop} (h : s.IsFault) : s.IsLong cs := by
  cases s
  case fault  => trivial
  case number => exact h.elim

-- Plain data is read from the front of the text, unless there is a number with too many digits.
def Reads (cs : List Char) (x : Except Stop (Value × List Char)) : Prop :=
  Ends (fun r => r.1.Plain ∧ r.2 <:+ cs) (Stop.IsLong cs) x

theorem Reads.mono {cs cs' : List Char} {x : Except Stop (Value × List Char)} (h : Reads cs x)
    (hs : cs <:+ cs') : Reads cs' x :=
  h.imp (fun _ hr => ⟨hr.1, hr.2.trans hs⟩) fun _ he => he.mono hs

theorem skip_suffix (cs : List Char) : skip cs <:+ cs :=
  List.dropWhile_suffix _

theorem suffix_of_skip {cs rest : List Char} {c : Char} (h : skip cs = c :: rest) : rest <:+ cs :=
  (List.suffix_cons ..).trans <| h ▸ skip_suffix cs

theorem lowHalf?_isFault (cs : List Char) : Ends (fun _ => True) Stop.IsFault (lowHalf? cs) := by
  fun_cases lowHalf? <;> trivial

theorem string_ends (start : Nat) (done cs : List Char) :
    Ends (·.2 <:+ cs) Stop.IsFault (string start done cs) := by
  fun_induction string
  case case2 => exact List.suffix_cons ..
  case case5 _ _ _ _ e rest n _ _ h =>
    have low : Ends (fun _ => True) Stop.IsFault
        (if isHigh n then lowHalf? (e :: rest) else .ok none) := by
      split
      · exact lowHalf?_isFault _
      · trivial
    exact low.of_error h
  case case6 hi => exact hi.suffix <| (List.drop_suffix ..).trans ⟨['\\', 'u', _, _, _, _, _], rfl⟩
  case case7 hi => exact hi.suffix ⟨['\\', 'u', _, _, _, _], rfl⟩
  case case9 hi => exact hi.suffix ⟨['\\', _], rfl⟩
  case case12 hi => exact hi.suffix <| List.suffix_cons ..
  all_goals trivial

theorem unsign_suffix (cs : List Char) : (unsign cs).2 <:+ cs := by
  fun_cases unsign
  · exact List.suffix_cons ..
  · exact List.suffix_refl _

theorem digits?_eq {cs whole rest : List Char} (h : digits? cs = some (whole, rest)) :
    whole ++ rest = cs ∧ ∀ d ∈ whole, d.isDigit := by
  revert h
  fun_cases digits? with
  | case1 => rintro ⟨⟩; exact ⟨rfl, List.forall_mem_singleton.mpr rfl⟩
  | case2 c tail _ hc =>
    rintro ⟨⟩
    refine ⟨by simp [List.takeWhile_append_dropWhile], List.forall_mem_cons.mpr ⟨hc, fun d hd => ?_⟩⟩
    exact List.mem_takeWhile_imp hd
  | _ => exact nofun

theorem fraction_suffix (cs : List Char) : (fraction cs).2 <:+ cs := by
  fun_cases fraction
  case case2 => exact (List.dropWhile_suffix _).trans (List.suffix_cons ..)
  all_goals exact List.suffix_refl _

theorem exponent?_suffix {cs rest : List Char} {n : Int} (h : exponent? cs = some (n, rest)) :
    rest <:+ cs := by
  revert h
  fun_cases exponent? with
  | case2 c tail _ down after sign =>
    rintro ⟨⟩
    have : after <:+ tail := by
      split at sign <;> obtain ⟨-, rfl⟩ := Prod.mk.inj sign
      · exact List.suffix_cons ..
      · exact List.suffix_cons ..
      · exact List.suffix_refl _
    exact (List.dropWhile_suffix _).trans <| this.trans <| List.suffix_cons ..
  | _ => exact nofun

theorem number_reads (cs : List Char) : Reads cs (number cs) := by
  have signed := unsign_suffix cs
  unfold number
  cases hd : digits? (unsign cs).2
  case none => simp only [hd]; trivial
  case some found =>
    obtain ⟨whole, rest⟩ := found
    have ⟨parts, digits⟩ := digits?_eq hd
    have left : (fraction rest).2 <:+ cs :=
      (fraction_suffix rest).trans <| (parts ▸ List.suffix_append whole rest).trans signed
    simp only [hd]
    split
    case h_1 =>
      split
      case isTrue long =>
        have inside : whole <:+: cs :=
          (parts ▸ List.prefix_append whole rest).isInfix.trans signed.isInfix
        exact ⟨long, whole, inside, digits, rfl⟩
      case isFalse => exact ⟨.int, left⟩
    case h_2 =>
      refine ⟨.float, ?_⟩
      cases he : exponent? (fraction rest).2
      case none => exact left
      case some => exact (exponent?_suffix he).trans left

-- What holds of all three readers that have this much room.
structure ReadsWith (fuel : Nat) : Prop where
  value  : ∀ cs, Reads cs (value fuel cs)
  object : ∀ {done}, (∀ e ∈ done, e.2.Plain) → ∀ cs, Reads cs (object fuel done cs)
  array  : ∀ {done}, (∀ v ∈ done, v.Plain) → ∀ cs, Reads cs (array fuel done cs)

section

variable {fuel : Nat} (h : ∀ n < fuel, ReadsWith n)
include h

theorem value_reads (cs : List Char) : Reads cs (value fuel cs) := by
  fun_cases value fuel cs with
  | case1 => trivial
  | case2 n rest =>
    refine .map ?_
    exact (string_ends ..).imp (fun _ hs => ⟨.text, hs.trans <| List.suffix_cons ..⟩)
      fun _ he => he.isLong
  | case3 n rest r hr =>
    exact ⟨.map (by simp), (suffix_of_skip hr).trans <| List.suffix_cons ..⟩
  | case4 n rest =>
    have object := (h n n.lt_succ_self).object (List.forall_mem_nil _) (skip rest)
    exact object.mono <| (skip_suffix rest).trans <| List.suffix_cons ..
  | case5 n rest r hr =>
    exact ⟨.list (by simp), (suffix_of_skip hr).trans <| List.suffix_cons ..⟩
  | case6 n rest =>
    have array := (h n n.lt_succ_self).array (List.forall_mem_nil _) (skip rest)
    exact array.mono <| (skip_suffix rest).trans <| List.suffix_cons ..
  | case7 n rest  => exact ⟨.null, ['n', 'u', 'l', 'l'], rfl⟩
  | case8 n rest  => exact ⟨.bool, ['t', 'r', 'u', 'e'], rfl⟩
  | case9 n rest  => exact ⟨.bool, ['f', 'a', 'l', 's', 'e'], rfl⟩
  | case10 n rest => exact ⟨.float, ['N', 'a', 'N'], rfl⟩
  | case11 n rest => exact ⟨.float, ['I', 'n', 'f', 'i', 'n', 'i', 't', 'y'], rfl⟩
  | case12 n rest => exact ⟨.float, ['-', 'I', 'n', 'f', 'i', 'n', 'i', 't', 'y'], rfl⟩
  | case13        => exact number_reads cs

theorem object_reads {done : List (String × Value)} (hd : ∀ e ∈ done, e.2.Plain) (cs : List Char) :
    Reads cs (object fuel done cs) := by
  fun_cases object fuel done cs with
  | case1 n _ rest =>
    have named : Ends (·.2 <:+ rest) (Stop.IsLong ('"' :: rest)) (string (rest.length + 1) [] rest) :=
      (string_ends ..).imp (fun _ hr => hr) fun _ he => he.isLong
    refine named.bind ?_
    intro ⟨name, rest₁⟩ h₁
    have inside := h₁.trans <| List.suffix_cons '"' rest
    dsimp only
    split
    case h_2 => trivial
    case h_1 rest₂ h₂ =>
      have inside := (skip_suffix rest₂).trans <| (suffix_of_skip h₂).trans inside
      refine .bind (((h n n.lt_succ_self).value _).mono inside) ?_
      intro ⟨v, rest₃⟩ ⟨plain, h₃⟩
      have entries : ∀ e ∈ Value.put name v done, e.2.Plain := Value.forall_put plain hd
      dsimp only
      split
      case h_1 h₄ => exact ⟨.map entries, (suffix_of_skip h₄).trans h₃⟩
      case h_2 rest₄ h₄ =>
        have object := (h n n.lt_succ_self).object entries (skip rest₄)
        exact object.mono <| (skip_suffix rest₄).trans <| (suffix_of_skip h₄).trans h₃
      case h_3 => trivial
  | case2 => trivial

theorem array_reads {done : List Value} (hd : ∀ v ∈ done, v.Plain) (cs : List Char) :
    Reads cs (array fuel done cs) := by
  fun_cases array fuel done cs with
  | case1 => trivial
  | case2 n =>
    refine .bind ((h n n.lt_succ_self).value cs) ?_
    intro ⟨v, rest₁⟩ ⟨plain, h₁⟩
    have items : ∀ w ∈ v :: done, w.Plain := List.forall_mem_cons.mpr ⟨plain, hd⟩
    dsimp only
    split
    case h_1 h₂ =>
      exact ⟨.list fun w hw => items w (List.mem_reverse.mp hw), (suffix_of_skip h₂).trans h₁⟩
    case h_2 rest₂ h₂ =>
      have array := (h n n.lt_succ_self).array items (skip rest₂)
      exact array.mono <| (skip_suffix rest₂).trans <| (suffix_of_skip h₂).trans h₁
    case h_3 => trivial

end

theorem reads_with (fuel : Nat) : ReadsWith fuel := by
  induction fuel using Nat.strongRecOn
  case ind fuel h => exact ⟨value_reads h, object_reads h, array_reads h⟩

theorem whole_ends (cs : List Char) : Ends Value.Plain (Stop.IsLong cs) (whole cs) := by
  unfold whole
  split
  case isTrue => trivial
  case isFalse =>
    refine .bind (((reads_with _).value _).mono (skip_suffix cs)) ?_
    intro ⟨v, rest⟩ ⟨plain, _⟩
    dsimp only
    split
    · exact plain
    · trivial

-- A text says plain data or is refused for its form, unless it has too many digits in a row.
theorem read_ends (s : String) : Ends Value.Plain (Error.IsLong s.toList) (read s) := by
  have ends := whole_ends s.toList
  unfold read
  cases h : whole s.toList
  case ok v       => simp only [h]; exact ends.of_ok h
  case error stop =>
    cases stop
    case fault    => simp only [h]; trivial
    case number e => simp only [h]; exact ends.of_error h

end Json
end Outline

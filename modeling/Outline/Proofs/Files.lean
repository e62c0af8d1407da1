import Mathlib.Data.List.Infix
import Outline.Files
import Outline.Proofs.Text.Utf8

namespace Outline.Files

-- A text can be written to a path: it leads to a place where there is no folder.
structure Opens (fs : Files) (path : String) (names : List String) : Prop where
  located  : fs.locate path = .ok names
  noFolder : fs.isFolder names = false
  noSlash  : endsInSlash path = false

-- The files with a content at a place.
def set (fs : Files) (names : List String) (content : List UInt8) : Files :=
  ⟨put names content fs.entries⟩

variable {fs fs' : Files} {path path' : String} {names names' other here rest : List String}
variable {content : List UInt8}

theorem writeAt_eq_ok_iff :
    fs.writeAt path content = .ok fs' ↔ ∃ names, fs.Opens path names ∧ fs.set names content = fs' := by
  unfold writeAt
  constructor
  case mp =>
    intro h
    cases hl : fs.locate path
    case error => simp [hl, bind, Except.bind] at h
    case ok names =>
      cases hf : fs.isFolder names <;> cases hs : endsInSlash path <;>
        simp [hl, hf, hs, bind, Except.bind, throw, throwThe, MonadExceptOf.throw, pure, Except.pure] at h
      exact ⟨names, ⟨hl, hf, hs⟩, h⟩
  case mpr =>
    rintro ⟨names, ⟨hl, hf, hs⟩, rfl⟩
    simp [hl, hf, hs, bind, Except.bind, pure, Except.pure, set]

theorem Opens.write (h : fs.Opens path names) (pieces : List String) :
    fs.write path pieces = .ok (fs.set names (contentOf pieces).1, (contentOf pieces).2) := by
  simp [Files.write, writeAt_eq_ok_iff.mpr ⟨names, h, rfl⟩, Except.map, Except.mapError]

-- All places on the way are folders.
def Reached (fs : Files) (names : List String) : Prop :=
  ∀ above, above <+: names → above ≠ names → fs.isFolder above

theorem Reached.nil : fs.Reached [] :=
  fun _ h hne => absurd (List.prefix_nil.mp h) hne

theorem Reached.concat (h : fs.Reached here) (folder : fs.isFolder here) (name : String) :
    fs.Reached (here ++ [name]) := by
  intro above hp hne
  rcases List.prefix_concat_iff.mp hp with rfl | hp
  case inl => contradiction
  case inr =>
    by_cases hh : above = here
    case pos => exact hh ▸ folder
    case neg => exact h above hp hh

theorem Reached.dropLast (h : fs.Reached here) : fs.Reached here.dropLast := by
  intro above hp hne
  refine h above (hp.trans <| List.dropLast_prefix here) fun heq => hne ?_
  have shorter := (List.dropLast_prefix here).length_le
  have longer := hp.length_le
  exact hp.eq_of_length (by rw [heq] at longer ⊢; omega)

theorem Reached.root : fs.Reached rootNames := by
  intro above hp hne
  rcases List.prefix_cons_iff.mp hp with rfl | ⟨_, rfl, h⟩
  case inl => rfl
  case inr => simp [rootNames, List.prefix_nil.mp h] at hne

-- Where one name leads to from a folder.
inductive Leads (here : List String) : String → List String → Prop
  | stay : Leads here "." here
  | root (h : here = rootNames) : Leads here ".." here
  | up (h : here ≠ []) : Leads here ".." here.dropLast
  | down (name : String) : Leads here name (here ++ [name])

theorem Leads.reached {name : String} {there : List String} (h : Leads here name there)
    (reached : fs.Reached here) (folder : fs.isFolder here) : fs.Reached there := by
  cases h
  case stay      => exact reached
  case root      => exact reached
  case up        => exact reached.dropLast
  case down      => exact reached.concat folder name

-- A name is followed from a folder on, and which folders there are is all that counts.
theorem follow_cons_eq_ok {name : String} (h : fs.follow here (name :: rest) = .ok names) :
    fs.isFolder here ∧ ∃ there, Leads here name there ∧ fs.follow there rest = .ok names ∧
      ∀ fs' : Files, fs'.isFolder here → fs'.follow here (name :: rest) = fs'.follow there rest := by
  unfold follow at h
  split at h
  case isTrue => contradiction
  case isFalse folder =>
    refine ⟨by simpa using folder, ?_⟩
    split at h
    case isTrue => contradiction
    case isFalse short =>
      split at h
      case isTrue hn =>
        subst hn
        exact ⟨here, .stay, h, fun _ hf => by simp [follow, hf, short]⟩
      case isFalse hn =>
        split at h
        case isFalse hn' =>
          exact ⟨_, .down name, h, fun _ hf => by simp [follow, hf, short, hn, hn']⟩
        case isTrue hn' =>
          subst hn'
          split at h
          case isTrue => contradiction
          case isFalse inside =>
            refine ⟨_, ?_, h, fun _ hf => by simp [follow, hf, short, inside]⟩
            split
            case isTrue hr => exact .root hr
            case isFalse   => exact .up (by simpa using inside)

theorem follow_reached (h : fs.Reached here) (hf : fs.follow here rest = .ok names) :
    fs.Reached names := by
  induction rest generalizing here
  case nil =>
    obtain rfl := by simpa [follow] using hf
    exact h
  case cons name rest hi =>
    have ⟨folder, there, leads, hf, _⟩ := follow_cons_eq_ok hf
    exact hi (leads.reached h folder) hf

theorem follow_congr (h : ∀ names, fs.isFolder names → fs'.isFolder names)
    (hf : fs.follow here rest = .ok names) : fs'.follow here rest = .ok names := by
  induction rest generalizing here
  case nil => exact hf
  case cons name rest hi =>
    have ⟨folder, there, _, hf, same⟩ := follow_cons_eq_ok hf
    rw [same fs' (h here folder)]
    exact hi hf

-- A path with a place is followed from the working folder or from the root on.
theorem locate_eq_ok (h : fs.locate path = .ok names) :
    ∃ here rest, (here = [] ∨ here = rootNames) ∧ fs.follow here rest = .ok names ∧
      ∀ fs' : Files, fs'.locate path = fs'.follow here rest := by
  unfold locate at h
  split at h
  case h_1 => contradiction
  case h_2 spelt =>
    split at h
    case isTrue => contradiction
    case isFalse notEmpty =>
      refine ⟨_, _, ?_, h, fun fs' => ?_⟩
      case refine_1 =>
        split
        case isTrue  => exact .inr rfl
        case isFalse => exact .inl rfl
      case refine_2 =>
        rw [locate, spelt]
        exact if_neg notEmpty

theorem locate_reached (h : fs.locate path = .ok names) : fs.Reached names := by
  obtain ⟨here, rest, rfl | rfl, follows, _⟩ := locate_eq_ok h
  case inl => exact follow_reached .nil follows
  case inr => exact follow_reached .root follows

-- Does an entry make a place a folder?
def makesFolder (names : List String) (e : List String × Option (List UInt8)) : Bool :=
  if e.1 = names then e.2.isNone else names.isPrefixOf e.1

theorem isFolder_eq (fs : Files) (names : List String) :
    fs.isFolder names = (names.isEmpty || names = rootNames || fs.entries.any (makesFolder names)) :=
  rfl

theorem any_put {p : List String × Option (List UInt8) → Bool}
    {entries : List (List String × Option (List UInt8))}
    (same : ∀ e ∈ entries, e.1 = names → p e = p (names, some content)) :
    (put names content entries).any p = (entries.any p || p (names, some content)) := by
  induction entries
  case nil => simp [put]
  case cons e entries hi =>
    have ⟨first, others⟩ := List.forall_mem_cons.mp same
    by_cases h : e.1 = names
    case pos =>
      rw [put, if_pos h, List.any_cons, List.any_cons, first h, Bool.or_right_comm, Bool.or_self]
    case neg => simp [put, h, hi others, Bool.or_assoc]

-- A file that is written where there is no folder makes no folder, nor takes one away.
theorem isFolder_set (h : fs.Reached names) (hf : fs.isFolder names = false) (other : List String) :
    (fs.set names content).isFolder other = fs.isFolder other := by
  have noFolder : ∀ e ∈ fs.entries, e.1 = names → e.2.isNone = false := by
    intro e he hn
    rw [isFolder_eq] at hf
    simp only [Bool.or_eq_false_iff, List.any_eq_false] at hf
    simpa [makesFolder, hn, Option.isSome_iff_ne_none] using hf.2 e he
  have same : ∀ e ∈ fs.entries, e.1 = names →
      makesFolder other e = makesFolder other (names, some content) := by
    intro e he hn
    by_cases ho : names = other <;> simp [makesFolder, hn, ho, noFolder e he hn]
  have above : makesFolder other (names, some content) → fs.isFolder other := by
    by_cases ho : names = other
    case pos => simp [makesFolder, ho]
    case neg =>
      intro hp
      exact h other (by simpa [makesFolder, ho] using hp) (Ne.symm ho)
  rw [isFolder_eq, set, any_put same, ← Bool.or_assoc, ← isFolder_eq]
  cases hm : makesFolder other (names, some content)
  case false => simp
  case true  => simp [above hm]

theorem locate_set (h : fs.Opens path' names') (hl : fs.locate path = .ok names) :
    (fs.set names' content).locate path = .ok names := by
  obtain ⟨here, rest, _, follows, same⟩ := locate_eq_ok hl
  rw [same]
  refine follow_congr (fun other folder => ?_) follows
  rwa [isFolder_set (locate_reached h.located) h.noFolder]

-- Writing to one path leaves where another path leads, and that it can be written to.
theorem Opens.set (h : fs.Opens path names) (h' : fs.Opens path' names') :
    (fs.set names' content).Opens path names where
  located  := locate_set h' h.located
  noFolder := by rw [isFolder_set (locate_reached h'.located) h'.noFolder, h.noFolder]
  noSlash  := h.noSlash

end Outline.Files

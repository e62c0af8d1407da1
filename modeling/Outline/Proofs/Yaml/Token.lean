import Outline.Proofs.Yaml.Name
import Outline.Yaml.Token

namespace Outline.Yaml.Token

namespace Scan

-- The one has been read on from the other, and no fault has been put among its tokens.
structure GoesOn (s' s : Scan) : Prop where
  here : s'.here.Follows s.here
  done : ∀ {f}, .broken f ∈ s'.done → .broken f ∈ s.done

-- Reading on, unless there is a fault that shows in the text from here on.
def Reads (s : Scan) (x : Except Fault Scan) : Prop :=
  Ends (·.GoesOn s) (Fault.ShowsIn s.here.rest) x

variable {s s' s'' : Scan} {t : Token} {c : Cursor}

namespace GoesOn

theorem refl (s : Scan) : s.GoesOn s :=
  ⟨.refl _, id⟩

theorem trans (h : s''.GoesOn s') (h' : s'.GoesOn s) : s''.GoesOn s :=
  ⟨h.here.trans h'.here, fun hf => h'.done (h.done hf)⟩

theorem goto (h : s'.GoesOn s) (hc : c.Follows s.here) : (s'.goto c).GoesOn s :=
  ⟨hc, h.done⟩

theorem next (h : s'.GoesOn s) : (s'.goto s'.here.next).GoesOn s :=
  h.goto <| (Cursor.next_follows _).trans h.here

theorem allowKey {b : Bool} (h : s'.GoesOn s) : (s'.allowKey b).GoesOn s :=
  ⟨h.here, h.done⟩

theorem push (h : s'.GoesOn s) (ht : ∀ f, t ≠ .broken f) : (s'.push t).GoesOn s := by
  refine ⟨h.here, fun hf => ?_⟩
  rcases List.mem_cons.mp hf with rfl | hf
  · exact absurd rfl (ht _)
  · exact h.done hf

theorem insert {number : Nat} (h : s'.GoesOn s) (ht : ∀ f, t ≠ .broken f) :
    (s'.insert number t).GoesOn s := by
  refine ⟨h.here, fun hf => ?_⟩
  rcases List.mem_append.mp hf with hf | hf
  · exact h.done <| List.mem_of_mem_take hf
  · rcases List.mem_cons.mp hf with rfl | hf
    · exact absurd rfl (ht _)
    · exact h.done <| List.mem_of_mem_drop hf

end GoesOn

theorem Reads.mono {x : Except Fault Scan} (h : Reads s' x) (hs : s'.GoesOn s) : Reads s x :=
  h.imp (fun _ hr => hr.trans hs) fun _ hf => hf.mono hs.here.isInfix

theorem Reads.bind {x : Except Fault Scan} {f : Scan → Except Fault Scan} (h : Reads s x)
    (hf : ∀ s', s'.GoesOn s → Reads s (f s')) : Reads s (x >>= f) :=
  Ends.bind h hf

theorem Reads.pure (h : s'.GoesOn s) : Reads s (pure s') :=
  h

theorem Reads.ite {p : Prop} [Decidable p] {x y : Except Fault Scan} (hx : Reads s x) (hy : Reads s y) :
    Reads s (if p then x else y) := by
  split
  · exact hx
  · exact hy

-- What is read from the text after a look at the marks.
theorem Reads.bind_reads {α : Type} {x : Except Fault Scan} {y : Scan → Except Fault (α × Cursor)}
    {f : Scan → α × Cursor → Except Fault Scan} (hx : Reads s x) (hy : ∀ s', Yaml.Reads s.here (y s'))
    (hf : ∀ s', s'.GoesOn s → ∀ a c, c.Follows s.here → Reads s (f s' (a, c))) :
    Reads s (x >>= fun s' => y s' >>= f s') :=
  hx.bind fun s' hs => Ends.bind (hy s') fun r hr => hf s' hs r.1 r.2 hr

theorem dropStale_reads (s : Scan) : Reads s s.dropStale := by
  unfold dropStale
  dsimp only
  split
  · trivial
  · exact ⟨.refl _, id⟩

theorem dropMark_reads (s : Scan) : Reads s s.dropMark := by
  unfold dropMark
  dsimp only
  split
  · trivial
  · exact ⟨.refl _, id⟩

theorem mark_reads (s : Scan) : Reads s s.mark := by
  unfold mark
  split
  · exact .refl s
  · exact (dropMark_reads s).bind fun s' hs => ⟨hs.here, hs.done⟩

theorem endBlocks_goesOn (column : Int) (s : Scan) : (s.endBlocks column).GoesOn s := by
  unfold endBlocks
  split
  case isTrue => exact .refl s
  case isFalse =>
    dsimp only
    generalize List.range _ = ends
    have ended {s' : Scan} (h : s'.GoesOn s) :
        (ends.foldl (fun s _ => s.push .blockEnd) s').GoesOn s := by
      induction ends generalizing s'
      case nil => exact h
      case cons hi => exact hi <| h.push nofun
    exact ended ⟨.refl _, id⟩

theorem beginBlock_goesOn {put : Scan → Scan} (column : Nat)
    (hput : ∀ {s'}, s'.GoesOn s → (put s').GoesOn s) : (s.beginBlock column put).GoesOn s := by
  unfold beginBlock
  split
  · exact hput ⟨.refl _, id⟩
  · exact .refl s

theorem skipBlanks_goesOn (fuel : Nat) (s : Scan) : (skipBlanks fuel s).GoesOn s := by
  have comment (s : Scan) (c : Cursor) (hc : c.Follows s.here) :
      (if c.head? == some '#' then c.skip (!isBreak ·) else c).Follows s.here := by
    split
    · exact (Cursor.skip_follows ..).trans hc
    · exact hc
  fun_induction skipBlanks
  case case1 => exact .refl _
  case case2 s _ _ _ _ hb hi =>
    have after := (Cursor.lineBreak?_follows hb).trans <| comment s _ <| Cursor.skip_follows ..
    exact hi.trans <| .allowKey <| (GoesOn.refl s).goto after
  case case3 s _ _ _ => exact (GoesOn.refl s).goto <| comment s _ <| Cursor.skip_follows ..

theorem toNext_goesOn (s : Scan) : s.toNext.GoesOn s := by
  unfold toNext
  dsimp only
  split
  · exact (skipBlanks_goesOn ..).trans (GoesOn.refl s).next
  · exact skipBlanks_goesOn ..

theorem leaveDocument_reads (s : Scan) : Reads s s.leaveDocument :=
  Reads.bind ((dropMark_reads _).mono <| endBlocks_goesOn (-1) s) fun _ hs => hs.allowKey

theorem openBrackets_reads (ht : ∀ f, t ≠ .broken f) (s : Scan) : Reads s (s.openBrackets t) := by
  refine (mark_reads s).bind fun s' hs => ?_
  have opened := (hs.push ht).next
  exact ⟨opened.here, opened.done⟩

theorem closeBrackets_reads (ht : ∀ f, t ≠ .broken f) (s : Scan) : Reads s (s.closeBrackets t) := by
  refine .ite trivial <| (dropMark_reads s).bind fun s' hs => ?_
  have closed := (hs.push ht).next
  exact ⟨closed.here, closed.done⟩

-- A sign that no key can reach over, and the place after it.
theorem sign_reads {b : Bool} (h : s'.GoesOn s) (ht : ∀ f, t ≠ .broken f) :
    Reads s (do return ((← s'.allowKey b |>.dropMark).push t).goto s'.here.next) := by
  refine .bind ((dropMark_reads _).mono h.allowKey) fun s'' hs => ?_
  exact (hs.push ht).goto <| (Cursor.next_follows _).trans h.here

theorem entry_reads (s : Scan) : Reads s s.entry := by
  refine .ite (sign_reads (.refl s) nofun) <| .ite trivial ?_
  exact sign_reads (beginBlock_goesOn _ fun hs => hs.push nofun) nofun

theorem key_reads (s : Scan) : Reads s s.key := by
  refine .ite (sign_reads (.refl s) nofun) <| .ite trivial ?_
  exact sign_reads (beginBlock_goesOn _ fun hs => hs.push nofun) nofun

theorem value_reads (s : Scan) : Reads s s.value := by
  refine Ends.map <| Ends.imp (?key : Reads s _) (fun s' hs => (hs.push (by nofun)).next) fun _ hf => hf
  case key =>
    split
    case h_1 m _ =>
      have marked :
          ({ s with marks := s.marks.filter (·.nesting != s.nesting) }.insert m.number .key).GoesOn s :=
        .insert ⟨.refl _, id⟩ (by nofun)
      dsimp only
      split
      · exact marked.allowKey
      · exact .allowKey <| (beginBlock_goesOn _ fun hs => hs.insert (by nofun)).trans marked
    case h_2 =>
      refine .ite (.pure (GoesOn.refl s).allowKey) <| .ite trivial ?_
      exact .allowKey <| beginBlock_goesOn _ fun hs => hs.push (by nofun)

theorem token_reads (d : Char) (rest : List Char) (s : Scan) : Reads s (s.token d rest) := by
  unfold token
  refine .ite ?directive <| .ite ?separator <|
    .ite (openBrackets_reads (by nofun) s) <| .ite (openBrackets_reads (by nofun) s) <|
    .ite (closeBrackets_reads (by nofun) s) <| .ite (closeBrackets_reads (by nofun) s) <|
    .ite (sign_reads (.refl s) (by nofun)) <| .ite (entry_reads s) <| .ite (key_reads s) <|
    .ite (value_reads s) <| .ite ?name <| .ite ?tag <| .ite ?block <| .ite ?quoted <| .ite ?plain trivial
  case directive =>
    refine (leaveDocument_reads s).bind_reads (fun _ => Name.directive_reads _) fun s' hs d c hc => .pure ?_
    exact (hs.push (by nofun)).goto hc
  case separator =>
    refine (leaveDocument_reads s).bind fun s' hs => .pure ?_
    exact (hs.push (by split <;> nofun)).goto <| Cursor.advance_follows ..
  case name =>
    refine (mark_reads s).bind_reads (fun _ => Name.anchor_reads _) fun s' hs name c hc => .pure ?_
    exact (hs.push (by split <;> nofun)).allowKey.goto hc
  case tag =>
    refine (mark_reads s).bind fun s' hs => Ends.bind (Name.tag_ends _) fun r hr => ?_
    exact Reads.pure <| (hs.push (by nofun)).allowKey.goto hr
  case block =>
    refine (dropMark_reads s).bind_reads (fun _ => Scalar.block_reads ..) fun s' hs content c hc => .pure ?_
    exact (hs.push (by nofun)).allowKey.goto hc
  case quoted =>
    refine (mark_reads s).bind_reads (fun _ => Scalar.quoted_reads ..) fun s' hs content c hc => .pure ?_
    exact (hs.push (by nofun)).allowKey.goto hc
  case plain =>
    refine (mark_reads s).bind fun s' hs => .pure ?_
    exact (hs.push (by nofun)).allowKey.goto <| Scalar.plain_follows ..

theorem step_reads (s : Scan) : Ends (·.1.GoesOn s) (Fault.ShowsIn s.here.rest) s.step := by
  have begun : Reads s s.toNext.dropStale := (dropStale_reads _).mono <| toNext_goesOn s
  refine Ends.bind begun fun s' hs => ?_
  dsimp only
  generalize hb : s'.endBlocks s'.here.column = next
  have hn : next.GoesOn s := (hb ▸ endBlocks_goesOn s'.here.column s').trans hs
  split
  case h_1 =>
    have ended : Reads s (next.endBlocks (-1)).dropMark :=
      (dropMark_reads _).mono <| (endBlocks_goesOn ..).trans hn
    exact Ends.bind ended fun _ h => h
  case h_2 d rest _ => exact Ends.bind ((token_reads d rest next).mono hn) fun _ h => h

theorem broken_mem_settled {f : Fault} (h : .broken f ∈ s.settled) : .broken f ∈ s.done :=
  List.mem_of_mem_drop <| List.mem_reverse.mp h

theorem broken_mem_settled_append {f g : Fault} (h : .broken f ∈ s.settled ++ [.broken g]) :
    .broken f ∈ s.done ∨ f = g := by
  rcases List.mem_append.mp h with h | h
  · exact .inl <| broken_mem_settled h
  · exact .inr <| by simpa using h

-- A fault among the tokens that a scan goes on to find has been there before, or it shows in the
-- text from here on.
theorem broken_mem_run {fuel : Nat} {f : Fault} (h : .broken f ∈ run fuel s) :
    .broken f ∈ s.done ∨ f.ShowsIn s.here.rest := by
  fun_induction run
  case case1 => exact .inl <| broken_mem_settled h
  case case2 s g hg =>
    have shows := (dropStale_reads s).of_error hg
    rcases broken_mem_settled_append h with h | rfl
    · exact .inl h
    · exact .inr shows
  case case3 s s₁ h₁ g hg =>
    have goes := (dropStale_reads s).of_ok h₁
    have shows := ((step_reads s₁).of_error hg).mono goes.here.isInfix
    rcases broken_mem_settled_append h with h | rfl
    · exact .inl <| goes.done h
    · exact .inr shows
  case case4 s s₁ h₁ next h₂ =>
    have goes := ((step_reads s₁).of_ok h₂).trans <| (dropStale_reads s).of_ok h₁
    exact .inl <| goes.done <| List.mem_reverse.mp h
  case case5 s s₁ h₁ next h₂ hi =>
    have goes := ((step_reads s₁).of_ok h₂).trans <| (dropStale_reads s).of_ok h₁
    exact (hi h).imp goes.done fun hf => hf.mono goes.here.isInfix

end Scan

theorem broken_mem_ofText {cs : List Char} {f : Fault} (h : .broken f ∈ ofText cs) : f.ShowsIn cs :=
  (Scan.broken_mem_run h).resolve_left (List.not_mem_nil)

end Outline.Yaml.Token

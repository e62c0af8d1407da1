import Mathlib.Data.List.Forall2
import Outline.Proofs.Html.Element
import Outline.Proofs.Section.Flat
import Outline.Proofs.Text.Words

namespace Outline.Html

def headingNames : List String := ["h1", "h2", "h3", "h4", "h5", "h6"]

-- Elements that nothing is read in.
def skippedNames : List String :=
  ["script", "style", "noscript", "template", "nav", "head", "link", "meta"]

-- Elements that are read as one block.
def blockNames : List String := ["p", "ul", "ol", "dl", "pre", "blockquote", "table"]

mutual

def Tree.shownTexts : Tree → List String
  | .text kind s           => if kind = .shown ∨ kind = .cdata then [s] else []
  | .element _ _ _ children => shownTexts children

-- The texts in some trees that a reader sees, in the order of the document.
def shownTexts : List Tree → List String
  | []      => []
  | t :: ts => t.shownTexts ++ shownTexts ts

end

-- What is in an element of the name is read by itself.
def IsTransparent (name : String) : Prop := name ∉ skippedNames ∧ name ∉ blockNames

namespace Element

-- The element is a heading without another one in it, and what is around it is looked into.
structure IsTitle (e : Element) : Prop where
  named   : e.name ∈ headingNames
  plain   : ∀ inner : Element, inner.In e.children → inner.name ∉ headingNames
  visible : ∀ name ∈ e.above, IsTransparent name

-- The words that a reader sees in the element.
def words (e : Element) : List String := (shownTexts e.children).flatMap Text.words

-- A heading says the words of an element, with one space between any two, and nothing if there are
-- none. It is of the depth that is in the name, and stands where the element does.
structure Announces (e : Element) (h : Heading) : Prop where
  depth    : e.name = "h" ++ toString h.depth
  children : h.children = if e.words = [] then [] else [⟨"text", some (" ".intercalate e.words), []⟩]
  position : h.position? = some e.position

instance : DecidablePred IsTransparent := fun name =>
  inferInstanceAs <| Decidable (name ∉ skippedNames ∧ name ∉ blockNames)

instance : DecidablePred IsTitle := fun e =>
  decidable_of_iff (e.name ∈ headingNames ∧ (∀ inner ∈ elements e.children, inner.name ∉ headingNames) ∧
      ∀ name ∈ e.above, IsTransparent name)
    ⟨fun ⟨named, plain, visible⟩ => ⟨named, fun inner h => plain inner (mem_elements.mpr h), visible⟩,
      fun ⟨named, plain, visible⟩ => ⟨named, fun inner h => plain inner (mem_elements.mp h), visible⟩⟩

end Element

-- The main part of a document: what is in its first `main`, or else in its first `article`, or else in
-- its first `body`, or else all of it.
inductive IsRoot (ts : List Tree) : List Tree → Prop
  | main {e} (h : First ts "main" e) : IsRoot ts e.children
  | article {e} (noMain : ∀ e : Element, e.In ts → e.name ≠ "main") (h : First ts "article" e) :
    IsRoot ts e.children
  | body {e} (noMain : ∀ e : Element, e.In ts → e.name ≠ "main")
      (noArticle : ∀ e : Element, e.In ts → e.name ≠ "article") (h : First ts "body" e) :
    IsRoot ts e.children
  | whole (noMain : ∀ e : Element, e.In ts → e.name ≠ "main")
      (noArticle : ∀ e : Element, e.In ts → e.name ≠ "article")
      (noBody : ∀ e : Element, e.In ts → e.name ≠ "body") :
    IsRoot ts ts

theorem root_eq (ts : List Tree) : root ts =
    (((Tree.findIn? (· == "main") ts).or (Tree.findIn? (· == "article") ts)).or
      (Tree.findIn? (· == "body") ts)).getD ts :=
  rfl

theorem root_isRoot (ts : List Tree) : IsRoot ts (root ts) := by
  rw [root_eq]
  cases main : Tree.findIn? (· == "main") ts
  case some children =>
    obtain ⟨e, first, rfl⟩ := exists_first main
    exact .main first
  case none =>
    have noMain := fun (e : Element) (h : e.In ts) => name_ne_of_findIn? main h
    cases article : Tree.findIn? (· == "article") ts
    case some children =>
      obtain ⟨e, first, rfl⟩ := exists_first article
      exact .article noMain first
    case none =>
      have noArticle := fun (e : Element) (h : e.In ts) => name_ne_of_findIn? article h
      cases body : Tree.findIn? (· == "body") ts
      case some children =>
        obtain ⟨e, first, rfl⟩ := exists_first body
        exact .body noMain noArticle first
      case none =>
        exact .whole noMain noArticle fun e h => name_ne_of_findIn? body h

variable {name : String}

theorem isHeading_iff : isHeading name ↔ name ∈ headingNames := by
  unfold isHeading headingDepth?
  split <;> simp_all [headingNames]

theorem isSkipped_iff : isSkipped name ↔ name ∈ skippedNames := by
  simp [isSkipped, skippedNames]

theorem isSome_blockKind?_iff : (blockKind? name).isSome ↔ name ∈ blockNames := by
  unfold blockKind?
  split <;> simp_all [blockNames]

theorem isOpen_iff {children : List Tree} : isOpen name children ↔
    isWrapper name ∨ name ∉ blockNames ∧ ∃ e : Element, e.In children ∧ e.name ∈ headingNames := by
  simp only [isOpen, Bool.or_eq_true, Bool.and_eq_true, isSome_findIn?_iff, isHeading_iff,
    ← isSome_blockKind?_iff]
  simp

theorem name_of_headingDepth? {depth : Nat} (h : headingDepth? name = some depth) :
    name = "h" ++ toString depth := by
  unfold headingDepth? at h
  split at h <;> cases h <;> rfl

theorem not_heading_of_skipped : ∀ name ∈ skippedNames, name ∉ headingNames := by decide

theorem not_heading_of_block : ∀ name ∈ blockNames, name ∉ headingNames := by decide

theorem not_isWrapper_of_heading : ∀ name ∈ headingNames, isWrapper name = false := by decide

theorem not_isWrapper_of_block : ∀ name ∈ blockNames, isWrapper name = false := by decide

theorem shownTexts_text (kind : TextKind) (s : String) (rest : List Tree) :
    shownTexts (.text kind s :: rest) =
      (if kind = .shown ∨ kind = .cdata then [s] else []) ++ shownTexts rest :=
  rfl

theorem shownTexts_element (name : String) (attributes : List Attribute) (position : Position)
    (children rest : List Tree) : shownTexts (.element name attributes position children :: rest) =
      shownTexts children ++ shownTexts rest :=
  rfl

-- A text of blanks has no words, and is left out.
theorem words_piece (s : String) :
    (if (Text.trim s).isEmpty then [] else [Text.trim s]).flatMap Text.words = Text.words s := by
  split
  case isTrue none =>
    rw [← Text.words_trim, String.isEmpty_iff.mp none]
    rfl
  case isFalse => rw [List.flatMap_singleton, Text.words_trim]

theorem words_shownText (ts : List Tree) :
    Text.words (Tree.shownText ts) = (shownTexts ts).flatMap Text.words := by
  rw [Tree.shownText, Text.words_intercalate]
  induction ts using trees_induction
  case nil => rfl
  case text kind s rest hi =>
    rw [shownTexts_text, List.flatMap_append, ← hi, Tree.shownPiecesIn, List.flatMap_append]
    congr 1
    by_cases shown : kind = .shown ∨ kind = .cdata
    case pos => simpa [Tree.shownPieces, shown] using words_piece s
    case neg => simp [Tree.shownPieces, shown]
  case element name attributes position children rest hi hi' =>
    rw [shownTexts_element, List.flatMap_append, ← hi, ← hi', Tree.shownPiecesIn, Tree.shownPieces,
      List.flatMap_append]

theorem headingNode_announces {depth : Nat} (h : headingDepth? name = some depth) (place : List Nat)
    (above : List String) (position : Position) (children : List Tree) :
    ∃ h, headingNode depth position children = .heading h ∧
      Element.Announces ⟨place, above, name, position, children⟩ h := by
  refine ⟨_, rfl, name_of_headingDepth? h, ?_, rfl⟩
  have none := Text.collapse_eq_empty_iff (s := Tree.shownText children)
  simp only [Text.collapse_eq, words_shownText] at none
  simp only [Text.collapse_eq, words_shownText, none, Element.words]
  congr

-- The elements that are headings, in the order of the document.
def titles (ts : List Tree) : List Element := (elements ts).filter (·.IsTitle)

-- The headings among the nodes of some trees.
def headings (ts : List Tree) : List Heading := (nodes ts).filterMap Node.heading?

namespace Element

variable {e : Element}

theorem isTitle_next : e.next.IsTitle ↔ e.IsTitle :=
  ⟨fun ⟨named, plain, visible⟩ => ⟨named, plain, visible⟩,
    fun ⟨named, plain, visible⟩ => ⟨named, plain, visible⟩⟩

theorem isTitle_under : (e.under name).IsTitle ↔ IsTransparent name ∧ e.IsTitle := by
  constructor
  case mp =>
    intro ⟨named, plain, visible⟩
    have ⟨outer, inner⟩ := List.forall_mem_cons.mp visible
    exact ⟨outer, named, plain, inner⟩
  case mpr =>
    intro ⟨outer, named, plain, inner⟩
    exact ⟨named, plain, List.forall_mem_cons.mpr ⟨outer, inner⟩⟩

theorem announces_next {h : Heading} : e.next.Announces h ↔ e.Announces h :=
  ⟨fun ⟨depth, children, position⟩ => ⟨depth, children, position⟩,
    fun ⟨depth, children, position⟩ => ⟨depth, children, position⟩⟩

theorem announces_under {h : Heading} : (e.under name).Announces h ↔ e.Announces h :=
  ⟨fun ⟨depth, children, position⟩ => ⟨depth, children, position⟩,
    fun ⟨depth, children, position⟩ => ⟨depth, children, position⟩⟩

end Element

theorem filter_next (es : List Element) :
    (es.map Element.next).filter (·.IsTitle) = (es.filter (·.IsTitle)).map Element.next := by
  simp [List.filter_map, Function.comp_def, Element.isTitle_next]

-- Headings in an element count if it is looked into.
theorem filter_under (name : String) (es : List Element) :
    (es.map (Element.under name)).filter (·.IsTitle) =
      if IsTransparent name then (es.filter (·.IsTitle)).map (Element.under name) else [] := by
  split
  case isTrue visible => simp [List.filter_map, Function.comp_def, Element.isTitle_under, visible]
  case isFalse hidden => simp [List.filter_map, Function.comp_def, Element.isTitle_under, hidden]

-- The headings that an element makes, itself or by what is in it.
def ownTitles (e : Element) : List Element :=
  (if e.IsTitle then [e] else []) ++
    if IsTransparent e.name then (titles e.children).map (Element.under e.name) else []

theorem titles_text (kind : TextKind) (s : String) (rest : List Tree) :
    titles (.text kind s :: rest) = (titles rest).map .next := by
  rw [titles, elements_text, filter_next, titles]

theorem titles_element (name : String) (attributes : List Attribute) (position : Position)
    (children rest : List Tree) : titles (.element name attributes position children :: rest) =
      ownTitles ⟨[0], [], name, position, children⟩ ++ (titles rest).map .next := by
  rw [titles, elements_element, List.filter_append, List.filter_cons, filter_next, filter_under, ownTitles,
    titles, titles]
  by_cases h : Element.IsTitle ⟨[0], [], name, position, children⟩ <;> simp [h]

theorem filterMap_textNode (kind : TextKind) (s : String) :
    (textNode kind s).filterMap Node.heading? = [] := by
  cases kind
  case shown | hidden =>
    unfold textNode
    dsimp only
    split <;> rfl
  all_goals rfl

-- An element that is no heading, or has one in it, makes no heading itself.
theorem ownTitles_of_not_plain {e : Element}
    (h : e.name ∈ headingNames → ∃ inner : Element, inner.In e.children ∧ inner.name ∈ headingNames) :
    ownTitles e = if IsTransparent e.name then (titles e.children).map (.under e.name) else [] := by
  have none : ¬e.IsTitle := fun title =>
    have ⟨inner, isIn, named⟩ := h title.named
    title.plain inner isIn named
  rw [ownTitles, if_neg none, List.nil_append]

theorem titles_of_plain {ts : List Tree} (h : ¬∃ e : Element, e.In ts ∧ e.name ∈ headingNames) :
    titles ts = [] := by
  refine List.filter_eq_nil_iff.mpr fun e mem title => ?_
  exact h ⟨e, mem_elements.mp mem, (of_decide_eq_true title).named⟩

-- An element that is not looked into is a heading itself, or makes none.
theorem ownTitles_of_closed {e : Element} (h : ¬isOpen e.name e.children) (top : e.above = []) :
    ownTitles e = if e.name ∈ headingNames then [e] else [] := by
  rw [isOpen_iff, not_or, not_and] at h
  have below (clear : e.name ∉ blockNames) : titles e.children = [] := titles_of_plain (h.2 clear)
  by_cases named : e.name ∈ headingNames
  case pos =>
    have clear : e.name ∉ blockNames := fun block => not_heading_of_block _ block named
    have title : e.IsTitle :=
      ⟨named, fun inner isIn named => h.2 clear ⟨inner, isIn, named⟩, by simp [top]⟩
    simp [ownTitles, title, below clear, named]
  case neg =>
    rw [ownTitles_of_not_plain fun h => absurd h named, if_neg named]
    split
    case isTrue transparent => rw [below transparent.2, List.map_nil]
    case isFalse            => rfl

theorem isTransparent_of_isOpen {children : List Tree} (skipped : name ∉ skippedNames)
    (h : isOpen name children) : IsTransparent name := by
  refine ⟨skipped, fun block => ?_⟩
  obtain wrapper | ⟨clear, _⟩ := isOpen_iff.mp h
  · simp [not_isWrapper_of_block name block] at wrapper
  · exact clear block

theorem exists_heading_of_isOpen {children : List Tree} (named : name ∈ headingNames)
    (h : isOpen name children) : ∃ e : Element, e.In children ∧ e.name ∈ headingNames := by
  obtain wrapper | ⟨_, inside⟩ := isOpen_iff.mp h
  · simp [not_isWrapper_of_heading name named] at wrapper
  · exact inside

-- An element that is not looked into makes one node at most, a heading if it is one.
theorem announces_of_closed {name : String} {children : List Tree} (skipped : name ∉ skippedNames)
    (closed : ¬isOpen name children) (attributes : List Attribute) (position : Position) :
    List.Forall₂ Element.Announces (ownTitles ⟨[0], [], name, position, children⟩)
      ((nodesOf (.element name attributes position children)).filterMap Node.heading?) := by
  rw [nodesOf, if_neg (isSkipped_iff.not.mpr skipped), if_neg closed, ownTitles_of_closed closed rfl]
  cases depth : headingDepth? name
  case some d =>
    have named : name ∈ headingNames := isHeading_iff.mp (by simp [isHeading, depth])
    obtain ⟨h, made, announces⟩ := headingNode_announces depth [0] [] position children
    simp only [made]
    rw [if_pos named]
    exact .cons announces .nil
  case none =>
    have named : name ∉ headingNames := isHeading_iff.not.mp (by simp [isHeading, depth])
    rw [if_neg named]
    cases blockKind? name
    case some => exact .nil
    case none =>
      dsimp only
      split <;> exact .nil

-- What an element makes: nothing, what is in it, or one node.
theorem announces_of_element (name : String) (attributes : List Attribute) (position : Position)
    (children : List Tree) (inner : List.Forall₂ Element.Announces (titles children) (headings children)) :
    List.Forall₂ Element.Announces (ownTitles ⟨[0], [], name, position, children⟩)
      ((nodesOf (.element name attributes position children)).filterMap Node.heading?) := by
  by_cases skipped : name ∈ skippedNames
  case pos =>
    have named := not_heading_of_skipped name skipped
    have hidden : ¬IsTransparent name := fun transparent => transparent.1 skipped
    rw [nodesOf, if_pos (isSkipped_iff.mpr skipped), ownTitles_of_not_plain fun h => absurd h named,
      if_neg hidden]
    exact .nil
  case neg =>
    by_cases looked : isOpen name children
    case pos =>
      rw [nodesOf, if_neg (isSkipped_iff.not.mpr skipped), if_pos looked,
        ownTitles_of_not_plain fun named => exists_heading_of_isOpen named looked,
        if_pos (isTransparent_of_isOpen skipped looked), List.forall₂_map_left_iff]
      exact inner.imp fun _ _ h => Element.announces_under.mpr h
    case neg => exact announces_of_closed skipped looked attributes position

theorem announces_of_titles (ts : List Tree) :
    List.Forall₂ Element.Announces (titles ts) (headings ts) := by
  induction ts using trees_induction
  case nil => exact .nil
  case text kind s rest hi =>
    have none : headings (.text kind s :: rest) = headings rest := by
      rw [headings, nodes, nodesOf, List.filterMap_append, filterMap_textNode, List.nil_append, headings]
    rw [titles_text, none, List.forall₂_map_left_iff]
    exact hi.imp fun _ _ h => Element.announces_next.mpr h
  case element name attributes position children rest hi hi' =>
    have parts : headings (.element name attributes position children :: rest) =
        (nodesOf (.element name attributes position children)).filterMap Node.heading? ++
          headings rest := by
      rw [headings, nodes, List.filterMap_append, headings]
    rw [titles_element, parts]
    refine List.rel_append (announces_of_element name attributes position children hi) ?_
    rw [List.forall₂_map_left_iff]
    exact hi'.imp fun _ _ h => Element.announces_next.mpr h

-- The headings of a document are those elements in its main part, in the order of the document and
-- once each, that are headings without another one in it, and in nothing that is not looked into.
theorem root_headings (ts : List Tree) :
    IsRoot ts (root ts) ∧
    ∃ es : List Element,
      (∀ e, e ∈ es ↔ e.In (root ts) ∧ e.IsTitle) ∧ es.Pairwise Element.Before ∧
      List.Forall₂ Element.Announces es ((nodes (root ts)).filterMap Node.heading?) := by
  refine ⟨root_isRoot ts, titles (root ts), fun e => ?_, (elements_pairwise _).filter _,
    announces_of_titles _⟩
  simp [titles, mem_elements]

end Outline.Html

import GuardedAutomata.Proofs.Dot.Identifier
import GuardedAutomata.Proofs.Session.Run

/-!
# The graph of an automaton as tokens

The description of a graph is laid out in pieces: words and identifiers with one delimiter behind each. It is read as
the tokens of the graph exactly if all its identifiers are sound. Of an automaton these are its name, the labels of its
states, and those of its edges.
-/

set_option autoImplicit false

namespace GuardedAutomata

namespace Dot

/-! ### Pieces -/

inductive Piece where
  | alone (c : Char)
  | word (cs : List Char) (c : Char)
  | name (cs : List Char) (c : Char)

namespace Piece

def text : Piece → List Char
  | alone c => [c]
  | word cs c => cs ++ [c]
  | name cs c => identifierChars cs ++ [c]

def tokens : Piece → List Token
  | alone c => (start c).1
  | word cs c => .word cs :: (start c).1
  | name cs c => token cs :: (start c).1

def IsLaid : Piece → Prop
  | alone c => isDelimiter c = true
  | word cs c => cs ≠ [] ∧ cs.all isPart = true ∧ isDelimiter c = true
  | name _ c => isDelimiter c = true

def IsSound : Piece → Prop
  | name cs _ => Sound cs
  | _ => True

end Piece

variable {p : Piece} {ps : List Piece}

theorem run_piece (h : p.IsLaid) (hsound : p.IsSound) : run .between p.text = (p.tokens, .between) := by
  cases p with
  | alone c => exact run_delimiter h
  | word cs c => exact run_word h.1 (List.all_eq_true.1 h.2.1) h.2.2
  | name cs c => exact run_identifier hsound h

/-- Pieces are read as their tokens exactly if their identifiers are sound: the first one that is not is read as another
token, or as none. -/
theorem run_pieces (h : ∀ p ∈ ps, p.IsLaid) :
    run .between (ps.flatMap Piece.text) = (ps.flatMap Piece.tokens, .between) ↔ ∀ p ∈ ps, p.IsSound := by
  induction ps with
  | nil => simp [run]
  | cons p ps ih =>
    obtain ⟨hp, hps⟩ := List.forall_mem_cons.1 h
    rw [List.flatMap_cons, List.flatMap_cons, List.forall_mem_cons]
    by_cases hsound : p.IsSound
    · rw [run_append_of_eq (run_piece hp hsound), and_iff_right hsound, ← ih hps, Prod.ext_iff, Prod.ext_iff,
        List.append_cancel_left_eq]
    · refine iff_of_false (fun hrun => ?_) fun hboth => hsound hboth.1
      cases p with
      | alone c => exact hsound trivial
      | word cs c => exact hsound trivial
      | name cs c =>
        rw [Piece.text, Piece.tokens, List.append_assoc] at hrun
        exact run_identifier_ne hsound _ _ _ hrun

/-! ### Attributes -/

def attributeTokens (attributes : List (String × String)) : List Token :=
  .mark '[' :: (attributes.flatMap fun a => [token a.1.toList, .mark '=', token a.2.toList]) ++ [.mark ']']

def assignmentPieces : List (String × String) → List Piece
  | [] => [.alone ']']
  | [a] => [.name a.1.toList '=', .name a.2.toList ']']
  | a :: rest => .name a.1.toList '=' :: .name a.2.toList ' ' :: assignmentPieces rest

def attributePieces (attributes : List (String × String)) : List Piece :=
  .alone '[' :: assignmentPieces attributes

variable {attributes : List (String × String)}

theorem text_assignment (a : String × String) (c : Char) :
    (assignment a.1 a.2).toList ++ [c] = (Piece.name a.1.toList '=').text ++ (Piece.name a.2.toList c).text := by
  simp [assignment, identifier, Piece.text]

theorem text_attributePieces (attributes : List (String × String)) :
    (attributeList attributes).toList = ' ' :: (attributePieces attributes).flatMap Piece.text := by
  have hassignments : ∀ attributes : List (String × String),
      (" ".intercalate (attributes.map fun a => assignment a.1 a.2)).toList ++ [']'] =
        (assignmentPieces attributes).flatMap Piece.text := by
    intro attributes
    induction attributes with
    | nil => rfl
    | cons a rest ih =>
      cases rest with
      | nil => simpa [assignmentPieces] using text_assignment a ']'
      | cons b rest =>
        rw [assignmentPieces, List.flatMap_cons, List.flatMap_cons, ← ih, ← List.append_assoc, ← text_assignment,
          List.map_cons, List.map_cons, String.intercalate_cons_cons]
        · simp
        · exact nofun
  rw [attributePieces, List.flatMap_cons, ← hassignments, attributeList]
  simp [Piece.text]

theorem tokens_attributePieces (attributes : List (String × String)) :
    (attributePieces attributes).flatMap Piece.tokens = attributeTokens attributes := by
  have hassignments : ∀ attributes : List (String × String), (assignmentPieces attributes).flatMap Piece.tokens =
      (attributes.flatMap fun a => [token a.1.toList, .mark '=', token a.2.toList]) ++ [.mark ']'] := by
    intro attributes
    induction attributes with
    | nil => rfl
    | cons a rest ih =>
      cases rest with
      | nil => rfl
      | cons b rest =>
        rw [assignmentPieces, List.flatMap_cons, List.flatMap_cons, ih]
        · rfl
        · exact nofun
  rw [attributePieces, List.flatMap_cons, hassignments]
  rfl

theorem isLaid_attributePieces (attributes : List (String × String)) :
    ∀ p ∈ attributePieces attributes, p.IsLaid := by
  have hassignments : ∀ attributes : List (String × String), ∀ p ∈ assignmentPieces attributes, p.IsLaid := by
    intro attributes
    induction attributes with
    | nil => exact List.forall_mem_singleton.2 rfl
    | cons a rest ih =>
      cases rest with
      | nil => exact List.forall_mem_cons.2 ⟨rfl, List.forall_mem_singleton.2 rfl⟩
      | cons b rest => exact List.forall_mem_cons.2 ⟨rfl, List.forall_mem_cons.2 ⟨rfl, ih⟩⟩
  exact List.forall_mem_cons.2 ⟨rfl, hassignments attributes⟩

theorem isSound_attributePieces (attributes : List (String × String)) :
    (∀ p ∈ attributePieces attributes, p.IsSound) ↔ ∀ a ∈ attributes, Sound a.1.toList ∧ Sound a.2.toList := by
  have hassignments : ∀ attributes : List (String × String),
      (∀ p ∈ assignmentPieces attributes, p.IsSound) ↔ ∀ a ∈ attributes, Sound a.1.toList ∧ Sound a.2.toList := by
    intro attributes
    induction attributes with
    | nil => simp [assignmentPieces, Piece.IsSound]
    | cons a rest ih =>
      cases rest with
      | nil => simp [assignmentPieces, Piece.IsSound]
      | cons b rest =>
        rw [assignmentPieces, List.forall_mem_cons, List.forall_mem_cons, ih, ← and_assoc]
        · exact (List.forall_mem_cons (p := fun a : String × String => Sound a.1.toList ∧ Sound a.2.toList)).symm
        · exact nofun
  rw [attributePieces, List.forall_mem_cons, hassignments]
  exact and_iff_right trivial

/-! ### Names of nodes -/

theorem isPlain_of_mem_nodeName {i : Nat} {c : Char} (h : c ∈ (nodeName i).toList) : isPlain c = true := by
  simp only [nodeName, String.toList_append, String.toList_ofList, List.mem_append] at h
  rcases h with h | h | h
  · exact List.all_eq_true.1 (by decide : "S_".toList.all isPlain = true) c h
  · rw [List.eq_of_mem_replicate h]
    rfl
  · exact isPlain_of_isDigit (Nat.isDigit_of_mem_toDigits (by decide) (by decide) h)

theorem nodeName_ne_nil (i : Nat) : (nodeName i).toList ≠ [] := by
  simp [nodeName]

theorem isLaid_nodeName (i : Nat) : (Piece.word (nodeName i).toList ' ').IsLaid :=
  ⟨nodeName_ne_nil i, List.all_eq_true.2 fun _ hd => isPart_of_isPlain (isPlain_of_mem_nodeName hd), rfl⟩

end Dot

namespace Automaton

open Dot

variable (a : Automaton)

/-! ### Nodes, edges and the graph -/

def nodeAttributes (i : Nat) : List (String × String) :=
  [("label", a.dotLabel i)] ++ (if i ∈ a.active then [("fillcolor", "lightgrey")] else []) ++
    [("shape", if (a.markersAt i).isEmpty then "circle" else "doublecircle")] ++
    (if i ∈ a.active then [("style", "filled")] else [])

def nodeTokens (i : Nat) : List Token :=
  .word (nodeName i).toList :: attributeTokens (a.nodeAttributes i)

def edgeTokens (source : Nat) (e : Edge) : List Token :=
  .word (nodeName source).toList :: .word "->".toList :: .word (nodeName e.target).toList ::
    attributeTokens [("label", a.dotEdgeLabel e.guard)]

def nameTokens : Value → List Token
  | .str s => if s.isEmpty then [] else [token s.toList]
  | _ => []

def graphTokens : List Token :=
  .word "digraph".toList :: (nameTokens a.name ++
    [Token.mark '\x7b', .word "rankdir".toList, .mark '=', .word "LR".toList] ++
    (List.range a.count).flatMap a.nodeTokens ++
    ((List.range a.count).flatMap fun i => (a.edgesOf i).flatMap (a.edgeTokens i)) ++ [Token.mark '\x7d'])

def nodePieces (i : Nat) : List Piece :=
  [Piece.alone '\t', .word (nodeName i).toList ' '] ++ attributePieces (a.nodeAttributes i) ++ [Piece.alone '\n']

def edgePieces (source : Nat) (e : Edge) : List Piece :=
  [Piece.alone '\t', .word (nodeName source).toList ' ', .word "->".toList ' ', .word (nodeName e.target).toList ' '] ++
    attributePieces [("label", a.dotEdgeLabel e.guard)] ++ [Piece.alone '\n']

def namePieces : Value → List Piece
  | .str s => if s.isEmpty then [] else [.name s.toList ' ']
  | _ => []

def graphPieces : List Piece :=
  .word "digraph".toList ' ' :: (namePieces a.name ++
    [Piece.alone '\x7b', .alone '\n', .alone '\t', .word "rankdir".toList '=', .word "LR".toList '\n'] ++
    (List.range a.count).flatMap a.nodePieces ++
    ((List.range a.count).flatMap fun i => (a.edgesOf i).flatMap (a.edgePieces i)) ++
    [Piece.alone '\x7d', .alone '\n'])

/-! ### The text of the graph -/

theorem text_nodePieces (i : Nat) : (a.dotNode i).toList = (a.nodePieces i).flatMap Piece.text := by
  show ("\t" ++ nodeName i ++ attributeList (a.nodeAttributes i) ++ "\n").toList = _
  rw [String.toList_append, String.toList_append, text_attributePieces]
  simp [nodePieces, Piece.text]

theorem text_edgePieces (source : Nat) (e : Edge) :
    (a.dotEdge source e).toList = (a.edgePieces source e).flatMap Piece.text := by
  rw [dotEdge, String.toList_append, String.toList_append, text_attributePieces]
  simp [edgePieces, Piece.text]

theorem text_namePieces {name : Value} {text : String} (h : nameText name = .ok text) :
    text.toList = (namePieces name).flatMap Piece.text := by
  unfold nameText at h
  split at h
  next s =>
    obtain rfl := Except.ok.inj h
    rw [namePieces]
    split
    · rfl
    · rw [String.toList_append, identifier, String.toList_ofList, List.flatMap_singleton]
      rfl
  next hname =>
    split at h
    · cases h
    · obtain rfl := Except.ok.inj h
      rw [namePieces]
      · rfl
      · exact hname

/-- The description of the graph of an automaton is laid out in pieces. -/
theorem text_graphPieces {source : String} (h : a.dotText {} = .ok source) :
    source.toList = a.graphPieces.flatMap Piece.text := by
  unfold dotText at h
  split at h
  · cases h
  next name hname =>
    have hname := text_namePieces hname
    obtain rfl := Except.ok.inj h
    have hnodes : ((List.range a.count).map a.dotNode).flatMap String.toList =
        ((List.range a.count).flatMap a.nodePieces).flatMap Piece.text := by
      simp only [List.flatMap_map, List.flatMap_assoc, text_nodePieces]
    have hedges : ((List.range a.count).flatMap fun i => (a.edgesOf i).map (a.dotEdge i)).flatMap String.toList =
        ((List.range a.count).flatMap fun i => (a.edgesOf i).flatMap (a.edgePieces i)).flatMap Piece.text := by
      simp only [List.flatMap_map, List.flatMap_assoc, text_edgePieces]
    simp [graphPieces, hname, hnodes, hedges, dotLines, Dot.defaults, String.toList_join, Piece.text]

/-! ### Its tokens -/

theorem tokens_nodePieces (i : Nat) : (a.nodePieces i).flatMap Piece.tokens = a.nodeTokens i := by
  rw [nodePieces, List.flatMap_append, List.flatMap_append, tokens_attributePieces]
  exact List.append_nil _

theorem tokens_edgePieces (source : Nat) (e : Edge) :
    (a.edgePieces source e).flatMap Piece.tokens = a.edgeTokens source e := by
  rw [edgePieces, List.flatMap_append, List.flatMap_append, tokens_attributePieces]
  exact List.append_nil _

theorem tokens_namePieces (name : Value) : (namePieces name).flatMap Piece.tokens = nameTokens name := by
  unfold namePieces nameTokens
  split
  · split <;> rfl
  · rfl

theorem tokens_graphPieces : a.graphPieces.flatMap Piece.tokens = a.graphTokens := by
  simp only [graphPieces, graphTokens, List.flatMap_cons, List.flatMap_append, tokens_namePieces, List.flatMap_assoc,
    tokens_nodePieces, tokens_edgePieces]
  rfl

/-! ### Its layout -/

theorem isLaid_nodePieces (i : Nat) : ∀ p ∈ a.nodePieces i, p.IsLaid :=
  List.forall_mem_append.2 ⟨List.forall_mem_append.2
    ⟨List.forall_mem_cons.2 ⟨rfl, List.forall_mem_singleton.2 (isLaid_nodeName i)⟩, isLaid_attributePieces _⟩,
    List.forall_mem_singleton.2 rfl⟩

theorem isLaid_edgePieces (source : Nat) (e : Edge) : ∀ p ∈ a.edgePieces source e, p.IsLaid := by
  have harrow : (Piece.word "->".toList ' ').IsLaid := ⟨by decide, by decide, rfl⟩
  refine List.forall_mem_append.2
    ⟨List.forall_mem_append.2 ⟨?_, isLaid_attributePieces _⟩, List.forall_mem_singleton.2 rfl⟩
  exact List.forall_mem_cons.2 ⟨rfl, List.forall_mem_cons.2 ⟨isLaid_nodeName source,
    List.forall_mem_cons.2 ⟨harrow, List.forall_mem_singleton.2 (isLaid_nodeName e.target)⟩⟩⟩

theorem isLaid_namePieces (name : Value) : ∀ p ∈ namePieces name, p.IsLaid := by
  unfold namePieces
  split
  · split
    · exact nofun
    · exact List.forall_mem_singleton.2 rfl
  · exact nofun

theorem isLaid_graphPieces : ∀ p ∈ a.graphPieces, p.IsLaid := by
  simp only [graphPieces, List.forall_mem_cons, List.forall_mem_append, List.forall_mem_flatMap]
  have hgraph : (Piece.word "digraph".toList ' ').IsLaid := ⟨by decide, by decide, rfl⟩
  have hdirection : (Piece.word "rankdir".toList '=').IsLaid := ⟨by decide, by decide, rfl⟩
  have hright : (Piece.word "LR".toList '\n').IsLaid := ⟨by decide, by decide, rfl⟩
  refine ⟨hgraph, ⟨⟨⟨isLaid_namePieces a.name, rfl, rfl, rfl, hdirection, hright, nofun⟩, ?_⟩, ?_⟩, ?_⟩
  · exact fun i _ p hp => a.isLaid_nodePieces i p hp
  · exact fun i _ e _ p hp => a.isLaid_edgePieces i e p hp
  · exact ⟨rfl, rfl, nofun⟩

/-! ### Its labels -/

/-- The label of a state starts with its number, so it never looks like markup. -/
theorem isBracketed_dotLabel (i : Nat) : isBracketed (a.dotLabel i).toList = false := by
  rw [Bool.eq_false_iff]
  intro hangles
  obtain ⟨rest, hrest⟩ := exists_cons_of_isBracketed hangles
  have hnumber : ∃ more, (a.dotLabel i).toList = Nat.toDigits 10 i ++ more := by
    rw [dotLabel]
    split
    · exact ⟨[], by rw [Nat.toString_eq_ofList_toDigits, String.toList_ofList, List.append_nil]⟩
    · refine ⟨"\n".toList ++ (a.markerText i).toList, ?_⟩
      rw [Nat.toString_eq_ofList_toDigits, String.toList_append, String.toList_append, String.toList_ofList,
        List.append_assoc]
  obtain ⟨more, hmore⟩ := hnumber
  obtain ⟨d, digits, hdigits⟩ := List.exists_cons_of_ne_nil (Nat.toDigits_ne_nil (n := i) (b := 10))
  have hdigit : d.isDigit = true :=
    Nat.isDigit_of_mem_toDigits (by decide) (by decide) (hdigits ▸ List.mem_cons_self)
  rw [hmore, hdigits] at hrest
  obtain ⟨rfl, -⟩ := List.cons.inj hrest
  cases hdigit

theorem sound_dotLabel_iff (i : Nat) : Sound (a.dotLabel i).toList ↔ endsOdd false (a.dotLabel i).toList = false :=
  and_iff_right (a.isBracketed_dotLabel i)

theorem isSound_nodePieces (i : Nat) :
    (∀ p ∈ a.nodePieces i, p.IsSound) ↔ endsOdd false (a.dotLabel i).toList = false := by
  have hlabel : Sound "label".toList := by decide
  have hattributes : (∀ x ∈ a.nodeAttributes i, Sound x.1.toList ∧ Sound x.2.toList) ↔
      endsOdd false (a.dotLabel i).toList = false := by
    rw [nodeAttributes, List.forall_mem_append, List.forall_mem_append, List.forall_mem_append,
      List.forall_mem_singleton, sound_dotLabel_iff]
    refine ⟨fun h => h.1.1.1.2, fun h => ⟨⟨⟨⟨hlabel, h⟩, ?_⟩, ?_⟩, ?_⟩⟩
    · split <;> decide
    · rw [List.forall_mem_singleton]
      split <;> decide
    · split <;> decide
  rw [nodePieces, List.forall_mem_append, List.forall_mem_append, isSound_attributePieces, hattributes]
  simp [Piece.IsSound]

theorem isSound_edgePieces (source : Nat) (e : Edge) :
    (∀ p ∈ a.edgePieces source e, p.IsSound) ↔ Sound (a.dotEdgeLabel e.guard).toList := by
  have hlabel : Sound "label".toList := by decide
  rw [edgePieces, List.forall_mem_append, List.forall_mem_append, isSound_attributePieces, List.forall_mem_singleton,
    and_iff_right hlabel]
  simp [Piece.IsSound]

theorem isSound_namePieces (name : Value) :
    (∀ p ∈ namePieces name, p.IsSound) ↔ ∀ s, name = .str s → Sound s.toList := by
  unfold namePieces
  split
  next s =>
    simp only [Value.str.injEq, forall_eq']
    split
    next hempty =>
      rw [String.isEmpty_iff.1 hempty]
      exact iff_of_true nofun (by decide)
    next => exact List.forall_mem_singleton
  next hname => exact iff_of_true nofun fun s hs => absurd hs (hname s)

def SoundLabels : Prop :=
  ∀ i < a.count, endsOdd false (a.dotLabel i).toList = false ∧
    ∀ e ∈ a.edgesOf i, Sound (a.dotEdgeLabel e.guard).toList

theorem isSound_graphPieces : (∀ p ∈ a.graphPieces, p.IsSound) ↔
    (∀ s, a.name = .str s → Sound s.toList) ∧ a.SoundLabels := by
  simp only [graphPieces, List.forall_mem_cons, List.forall_mem_append, List.forall_mem_flatMap, isSound_namePieces,
    isSound_nodePieces, isSound_edgePieces, List.mem_range]
  constructor
  · rintro ⟨-, ⟨⟨⟨hname, -⟩, hnodes⟩, hedges⟩, -⟩
    exact ⟨hname, fun i hi => ⟨hnodes i hi, hedges i hi⟩⟩
  · rintro ⟨hname, hlabels⟩
    exact ⟨trivial, ⟨⟨⟨hname, trivial, trivial, trivial, trivial, trivial, nofun⟩, fun i hi => (hlabels i hi).1⟩,
      fun i hi => (hlabels i hi).2⟩, trivial, trivial, nofun⟩

/-- An automaton is described if its name is a text or counts as false. -/
theorem exists_dotText (h : a.name.truthy = true → ∃ s, a.name = .str s) : ∃ source, a.dotText {} = .ok source := by
  have hname : ∃ text, nameText (({} : Options).name.getD a.name) = .ok text := by
    show ∃ text, nameText a.name = .ok text
    unfold nameText
    split
    · exact ⟨_, rfl⟩
    next hother =>
      rw [if_neg]
      · exact ⟨_, rfl⟩
      · intro htruthy
        obtain ⟨s, hs⟩ := h htruthy
        exact hother s hs
  obtain ⟨text, htext⟩ := hname
  exact ⟨_, by rw [dotText, htext]⟩

/-- The description of an automaton is read as the tokens of its graph exactly if its name and its labels are sound.
Each text by itself is read as its token exactly if it is sound, and one without backslashes that does not look like
markup is read as it is, up to a line end behind a bare word. -/
theorem run_dotText_iff (h : a.name.truthy = true → ∃ s, a.name = .str s) :
    (∃ source, a.dotText {} = .ok source ∧ (run .between source.toList = (a.graphTokens, .between) ↔
      (∀ s, a.name = .str s → Sound s.toList) ∧ a.SoundLabels)) ∧
    (∀ cs c, isDelimiter c = true →
      (run .between (identifierChars cs ++ [c]) = (token cs :: (start c).1, .between) ↔ Sound cs)) ∧
    ∀ cs, '\\' ∉ cs → isBracketed cs = false →
      Sound cs ∧ token cs = if isBare cs then .word (dropLineEnd cs) else .text cs := by
  refine ⟨?_, fun cs c hc => ⟨fun hrun => ?_, fun hsound => run_identifier hsound hc⟩, fun cs hslash hangles => ?_⟩
  · obtain ⟨source, hsource⟩ := a.exists_dotText h
    refine ⟨source, hsource, ?_⟩
    rw [a.text_graphPieces hsource, ← a.tokens_graphPieces, run_pieces a.isLaid_graphPieces, a.isSound_graphPieces]
  · by_contra hsound
    exact run_identifier_ne hsound _ _ _ hrun
  · refine ⟨sound_of_notMem hslash hangles, ?_⟩
    rw [token, unquoted_of_notMem hslash]

def linkBy (symbol : String) : List (String × Command) :=
  [("a", .new (.ofKind .symbol) (.str "automaton")), ("a", .newStates 2),
    ("a", .newTransition (.int 0) (.int 1) (.str symbol))]

def linkedBy (symbol : String) : Automaton :=
  ((@Session.run Matcher.catalogue (linkBy symbol) .empty).automaton? "a").getD default

theorem reachable_linkedBy (symbol : String) : @Reachable Matcher.catalogue (linkedBy symbol) :=
  let _ := Matcher.catalogue
  ⟨linkBy symbol, "a", rfl⟩

theorem name_linkedBy (symbol : String) : (linkedBy symbol).name = .str "automaton" :=
  rfl

/-- Quotes and backslashes within a symbol do no harm. -/
theorem run_dotText_iff_quotes : ∃ source, (linkedBy "say \"a\\b\"").dotText {} = .ok source ∧
    run .between source.toList = ((linkedBy "say \"a\\b\"").graphTokens, .between) := by
  obtain ⟨source, hsource, hiff⟩ := ((linkedBy "say \"a\\b\"").run_dotText_iff fun _ => ⟨_, name_linkedBy _⟩).1
  have hname : ∀ s, (linkedBy "say \"a\\b\"").name = .str s → Sound s.toList := by
    rintro s hs
    obtain rfl : "automaton" = s := Value.str.inj ((name_linkedBy _).symm.trans hs)
    decide
  have hlabels : (linkedBy "say \"a\\b\"").SoundLabels := by
    unfold SoundLabels
    decide +kernel
  exact ⟨source, hsource, hiff.2 ⟨hname, hlabels⟩⟩

/-- One symbol is drawn as markup, and another one leaves the text open in which it stands. -/
theorem run_dotText_symbols :
    (@Reachable Matcher.catalogue (linkedBy "<b>") ∧ ∃ source, (linkedBy "<b>").dotText {} = .ok source ∧
      .markup ['b'] ∈ (run .between source.toList).1) ∧
    (@Reachable Matcher.catalogue (linkedBy "\\") ∧ ∃ source, (linkedBy "\\").dotText {} = .ok source ∧
      (run .between source.toList).2 ≠ .between) := by
  obtain ⟨drawn, hdrawn⟩ := (linkedBy "<b>").exists_dotText fun _ => ⟨_, name_linkedBy _⟩
  obtain ⟨cut, hcut⟩ := (linkedBy "\\").exists_dotText fun _ => ⟨_, name_linkedBy _⟩
  refine ⟨⟨reachable_linkedBy _, drawn, hdrawn, ?_⟩, reachable_linkedBy _, cut, hcut, ?_⟩
  · rw [text_graphPieces _ hdrawn]
    decide +kernel
  · rw [text_graphPieces _ hcut]
    decide +kernel

end Automaton

end GuardedAutomata

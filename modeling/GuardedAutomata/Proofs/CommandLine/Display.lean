import GuardedAutomata.CommandLine.Outcome
import GuardedAutomata.Proofs.Terminal.Escape
import GuardedAutomata.Proofs.Terminal.Label
import GuardedAutomata.Proofs.Terminal.Layout
import GuardedAutomata.Proofs.Terminal.Wrapping
import GuardedAutomata.Proofs.Text.Delimiter
import Mathlib

/-!
# Texts of a definition as markup

The commands print the texts of a definition with markup around them. The guards of a tree and the markers of its
states are escaped first, so it does not matter what they are. The name, the cells of a table and the message on a
definition that cannot be loaded are printed as they are: what looks like a tag in them is one, and a command ends with
its exit code exactly if the tags match, and if the markers and guards that it shows can be written at all. What is
printed is laid out in lines, where only blanks are put in or left out.
-/

set_option autoImplicit false

namespace GuardedAutomata.CommandLine

open Terminal Terminal.Markup Text

/-! ### How a command ends -/

def EndsBy (code : Nat) (condition : Prop) (o : Outcome) : Prop :=
  (condition → o.ending = .exit code) ∧ (¬ condition → ∃ f, o.ending = .raised f ∧ f.family? = none)

variable {code most : Nat} {p q : Prop} {o : Outcome}

theorem EndsBy.congr (h : EndsBy code p o) (hpq : p ↔ q) : EndsBy code q o :=
  ⟨fun hq => h.1 (hpq.2 hq), fun hq => h.2 fun hp => hq (hpq.1 hp)⟩

theorem shows_printed (most : Nat) (markup : List Char) : Shows (Sound markup) (printed most markup) := by
  unfold printed
  exact (shows_plain markup).mapped (fun f hf => by rw [hf]) fun text ht => ⟨_, by rw [ht]⟩

theorem endsBy_printAll (written : Option (String × String)) (code : Nat) (output : List Char)
    (markups : List (List Char)) :
    EndsBy code (∀ markup ∈ markups, Sound markup) (printAll most written (.exit code) output markups) := by
  induction markups generalizing output with
  | nil => exact ⟨fun _ => rfl, fun hnot => absurd (by simp) hnot⟩
  | cons markup rest ih =>
    rw [printAll]
    refine EndsBy.congr ?_ List.forall_mem_cons.symm
    by_cases hsound : Sound markup
    · obtain ⟨text, htext⟩ := (shows_printed most markup).1 hsound
      rw [htext]
      exact (ih (output ++ text)).congr (and_iff_right hsound).symm
    · obtain ⟨f, hf, hfamily⟩ := (shows_printed most markup).2 hsound
      rw [hf]
      exact ⟨fun hboth => absurd hboth.1 hsound, fun _ => ⟨f, rfl, hfamily⟩⟩

theorem endsBy_printLines {lines : Except Failure (List (List Char))} (h : Shows p lines) :
    EndsBy 0 p (printLines lines) := by
  constructor
  · intro hp
    obtain ⟨shown, hshown⟩ := h.1 hp
    rw [hshown]
    rfl
  · intro hp
    obtain ⟨f, hf, hfamily⟩ := h.2 hp
    rw [hf]
    exact ⟨f, rfl, hfamily⟩

/-! ### Lines -/

theorem ink_unlines (lines : List (List Char)) : ink (unlines lines) = ink lines.flatten := by
  rw [unlines, List.flatMap_def, ink_flatten_congr fun line _ => ?_]
  rw [ink_append]
  exact List.append_nil (ink line)

/-- What is printed of a text. Where every character takes cells of its own, none but blanks is lost or moved, and a
text that fits on one line is that line. -/
structure PrintedAs (most : Nat) (text output : List Char) : Prop where
  ink : 2 ≤ most → Separate text → ink output = ink text
  line : Separate text → FitsLine most text → output = text ++ ['\n']

theorem printedAs_laidOut (most : Nat) (text : List Char) : PrintedAs most text (laidOut most text) where
  ink hmost h := by rw [laidOut, ink_unlines, ink_wrap hmost h]
  line h hfits := by
    rw [laidOut, wrap_of_fits .fold h hfits]
    exact List.append_nil (text ++ ['\n'])

theorem laidOut_of_fits {text : List Char} (h : Separate text) (hfits : FitsLine most text) :
    laidOut most text = text ++ ['\n'] :=
  (printedAs_laidOut most text).line h hfits

/-! ### Texts of the tool -/

theorem notMem_join {c mark : Char} {parts : List (List Char)} (hmark : c ≠ mark) (h : ∀ part ∈ parts, c ∉ part) :
    c ∉ Text.join mark parts := by
  induction parts with
  | nil => simp [Text.join]
  | cons part rest ih =>
    obtain ⟨hpart, hrest⟩ := List.forall_mem_cons.1 h
    cases rest with
    | nil => exact hpart
    | cons next rest =>
      rw [Text.join, List.mem_append, List.mem_cons]
      · simp only [hpart, hmark, ih hrest, or_self, not_false_eq_true]
      · exact List.cons_ne_nil next rest

theorem notMem_statesText {c : Char} (hdigit : c.isDigit = false) (hc : c ∉ ("\x7b" ++ ", " ++ "\x7d").toList)
    (s : StateSet) : c ∉ (statesText s).toList := by
  obtain ⟨hfront, hclose⟩ := notMem_append.1 hc
  obtain ⟨hopen, hcomma⟩ := notMem_append.1 hfront
  have hids : c ∉ (", ".intercalate (s.ids.map toString)).toList :=
    notMem_intercalate hcomma (List.forall_mem_map.2 fun i _ => notMem_toString hdigit i)
  rw [statesText, notMem_append, notMem_append]
  exact ⟨⟨hopen, hids⟩, hclose⟩

/-! ### Texts of a definition -/

/-- What is reported on a valid definition hangs on its name alone. -/
theorem endsBy_validateOutcome (most : Nat) (a : Automaton) :
    EndsBy 0 (Sound a.name.text.toList) (validateOutcome most true a) := by
  refine (endsBy_printAll none 0 [] _).congr ?_
  have hreport : Sound "[green]✓[/green] Configuration is valid!".toList :=
    (balanced_of_tags_eq_pair (by decide : IsWord "green".toList) (by decide)).sound
  have hdetails : Sound "\n[bold]Automaton Details:[/bold]".toList :=
    (balanced_of_tags_eq_pair (by decide : IsWord "bold".toList) (by decide)).sound
  have hname : Sound ("  Name: " ++ a.name.text).toList ↔ Sound a.name.text.toList := by
    rw [String.toList_append]
    exact sound_congr (tags_plain_append (by decide) (by decide) _)
  have hstore : Sound ("  Store: " ++ a.factory.storeKind.name).toList := by
    refine sound_of_notMem ?_
    cases a.factory.storeKind <;> decide
  have hcount (label : String) (hlabel : '[' ∉ label.toList) (n : Nat) : Sound (label ++ toString n).toList :=
    sound_of_notMem (notMem_append.2 ⟨hlabel, notMem_toString rfl n⟩)
  have haccept : Sound ("  Accept states: " ++ statesText a.marked).toList :=
    sound_of_notMem (notMem_append.2 ⟨by decide, notMem_statesText rfl (by decide) a.marked⟩)
  simp only [validLines, if_true, List.map_cons, List.map_nil, List.forall_mem_cons, hreport, hdetails, hname, hstore,
    hcount _ (by decide : '[' ∉ "  States: ".toList), hcount _ (by decide : '[' ∉ "  Transitions: ".toList), haccept,
    true_and, and_true, List.not_mem_nil, false_imp_iff, implies_true]

def edgesCell (a : Automaton) (i : Nat) : List Char :=
  Text.join '\n' ((a.edgesOf i).map edgeCell)

/-- The markers of each state are sound, and so are its edges taken together: a tag may start in one guard and end in
the next. -/
def SoundCells (a : Automaton) : Prop :=
  ∀ i < a.count, Sound (markerList (a.markersAt i)).toList ∧ Sound (edgesCell a i)

/-- An automaton is shown if its texts can be written and its view can be shown. -/
theorem endsBy_displayOutcome {a : Automaton} {format : DisplayFormat} {lines : Except Failure (List (List Char))}
    (h : Shows p lines) (hview : a.checkText = .ok () → displayOutcome most format a = printLines lines) :
    EndsBy 0 (a.hasText = true ∧ p) (displayOutcome most format a) := by
  unfold Automaton.checkText at hview
  cases ht : a.hasText with
  | false =>
    refine ⟨fun hboth => (Bool.false_ne_true hboth.1).elim, fun _ => ⟨.fault (.longInteger none), ?_, rfl⟩⟩
    unfold displayOutcome Automaton.checkText
    rw [ht]
    rfl
  | true =>
    rw [ht, if_pos rfl] at hview
    rw [hview rfl]
    exact (endsBy_printLines h).congr (and_iff_right rfl).symm

/-- A table hangs on the name, which is the start of its title, and on the cells of its states. -/
theorem endsBy_table (most : Nat) (a : Automaton) :
    EndsBy 0 (a.hasText = true ∧ Sound a.name.text.toList ∧ SoundCells a) (displayOutcome most .table a) := by
  refine (endsBy_displayOutcome (Table.shows_render most (stateTable a))
    fun ht => by rw [displayOutcome, ht]).congr (and_congr_right fun _ => ?_)
  have htitle : Sound (a.name.text ++ " - States").toList ↔ Sound a.name.text.toList := by
    refine sound_congr ?_
    rw [String.toList_append, tags_append (by decide), tags_of_notMem (by decide : '[' ∉ " - States".toList),
      List.append_nil]
  have hcells (i : Nat) : (∀ j < 3, Sound
        ([(toString i).toList, (markerList (a.markersAt i)).toList, edgesCell a i].getD j [])) ↔
      Sound (markerList (a.markersAt i)).toList ∧ Sound (edgesCell a i) := by
    constructor
    · exact fun h => ⟨h 1 (by decide), h 2 (by decide)⟩
    · rintro ⟨hmarkers, hedges⟩ j hj
      obtain rfl | rfl | rfl : j = 0 ∨ j = 1 ∨ j = 2 := by omega
      · exact sound_of_notMem (notMem_toString rfl i)
      · exact hmarkers
      · exact hedges
  have hrows : (∀ row ∈ (stateTable a).rows, ∀ j < (stateTable a).head.length, Sound (row.getD j [])) ↔
      SoundCells a := by
    simp only [stateTable, List.forall_mem_map, List.mem_range]
    exact forall₂_congr fun i _ => hcells i
  rw [hrows, and_comm]
  exact and_congr_left' htitle

theorem tags_guardLabel_append {back : List Char} (h : Detached back) (hback : '[' ∉ back) (e : Edge) :
    tags (guardLabel e ++ back) = [] := by
  unfold guardLabel
  split
  · refine tags_of_notMem ?_
    rw [List.mem_append, not_or]
    exact ⟨by decide, hback⟩
  · rw [tags_escape_append h, tags_of_notMem hback]

theorem sound_edgeBranch (e : Edge) : ∀ label ∈ (edgeBranch e).labels, Sound label := by
  have hback {c : Char} (hc : c ∉ " → #".toList) (hdigit : c.isDigit = false) :
      c ∉ (" → #" ++ toString e.target).toList :=
    notMem_append.2 ⟨hc, notMem_toString hdigit e.target⟩
  have hopen := hback (c := '[') (by decide) rfl
  have hlabel : Sound (guardLabel e ++ (" → #" ++ toString e.target).toList) :=
    (balanced_of_tags_eq_nil (tags_guardLabel_append
      (detached_of_notMem hopen (hback (by decide) rfl)) hopen e)).sound
  simpa [edgeBranch, Tree.labels, Tree.branchLabels] using hlabel

theorem balanced_markersPart (markers : List Value) :
    Balanced (" [red](".toList ++ escape (markerList markers).toList ++ ")[/red]".toList) := by
  refine balanced_of_tags_eq_pair (by decide : IsWord "red".toList) ?_
  have hopening (rest : List Char) :
      " [red](".toList ++ rest = [' '] ++ '[' :: ("red".toList ++ ']' :: (['('] ++ rest)) :=
    rfl
  rw [List.append_assoc, hopening, tags_plain_append (by decide) (by decide), tags_tag (IsWord.isInside (by decide)),
    tags_plain_append (by decide) (by decide), tags_escape_append (by decide)]
  decide

/-- A state is labelled by pairs of tags with text between them that has none. -/
theorem sound_stateLabel (a : Automaton) (i : Nat) : Sound (stateLabel a i) := by
  have hnumber : Balanced ("#" ++ toString i).toList :=
    balanced_of_tags_eq_nil (tags_of_notMem (notMem_append.2 ⟨by decide, notMem_toString rfl i⟩))
  have hnone : Balanced [] := balanced_of_tags_eq_nil rfl
  have hstart : Balanced " [green](start)[/green]".toList :=
    balanced_of_tags_eq_pair (by decide : IsWord "green".toList) (by decide)
  have hactive : Balanced " [yellow](active)[/yellow]".toList :=
    balanced_of_tags_eq_pair (by decide : IsWord "yellow".toList) (by decide)
  unfold stateLabel
  refine (((hnumber.append ?_ ?_).append ?_ ?_).append ?_ ?_).sound
  · split <;> decide
  · split
    · exact hstart
    · exact hnone
  · split <;> decide
  · split
    · exact hactive
    · exact hnone
  · split
    · decide
    · rw [List.append_assoc]
      exact Detached.append (by decide) (by decide)
  · split
    · exact hnone
    · exact balanced_markersPart (a.markersAt i)

/-- A tree hangs on the name in its title. -/
theorem endsBy_tree (most : Nat) (a : Automaton) :
    EndsBy 0 (a.hasText = true ∧ Sound ("[bold]" ++ a.name.text ++ "[/bold]").toList)
      (displayOutcome most .tree a) := by
  refine (endsBy_displayOutcome (Tree.shows_render most (stateTree a))
    fun ht => by rw [displayOutcome, ht]).congr (and_congr_right fun _ => ?_)
  rw [stateTree, Tree.labels, Tree.branchLabels_map, List.forall_mem_cons]
  refine and_iff_left fun label hlabel => ?_
  obtain ⟨i, -, hi⟩ := List.mem_flatMap.1 hlabel
  rw [Tree.labels, Tree.branchLabels_map, List.mem_cons] at hi
  rcases hi with rfl | hi
  · exact sound_stateLabel a i
  · obtain ⟨e, -, he⟩ := List.mem_flatMap.1 hi
    exact sound_edgeBranch e label he

/-! ### Definitions that cannot be loaded -/

def rejection (f : Failure) : List Char :=
  ("[red]Error loading configuration: " ++ f.message ++ "[/red]").toList

theorem plain_rejection_of_isLabel {f : Failure} (h : IsLabel f.message.toList) :
    plain (rejection f) = .ok ("Error loading configuration: " ++ f.message).toList := by
  have hfront : IsLabel ("Error loading configuration" ++ ": ").toList := isLabel_colon (by decide +kernel)
  have hlabel : IsLabel ("Error loading configuration" ++ ": " ++ f.message).toList := by
    rw [String.toList_append]
    exact hfront.append h
  simpa [rejection] using plain_marked (by decide : IsWord "red".toList) hlabel plain_nil

/-- One of the library's own errors is printed if its message is sound between its tags. -/
theorem loadFailed_of_family {f : Failure} (h : f.family? ≠ none) (most : Nat) :
    EndsBy 1 (Sound (rejection f)) (loadFailed most f) ∧
      (Sound (rejection f) → ∃ shown, plain (rejection f) = .ok shown ∧
        PrintedAs most shown (loadFailed most f).output) := by
  obtain ⟨family, hfamily⟩ := Option.ne_none_iff_exists'.1 h
  have hprints : loadFailed most f = printAll most none (.exit 1) [] [rejection f] := by
    rw [loadFailed, hfamily]
    rfl
  rw [hprints]
  refine ⟨(endsBy_printAll none 1 [] [rejection f]).congr List.forall_mem_singleton, fun hsound => ?_⟩
  obtain ⟨shown, hshown⟩ := (shows_plain _).1 hsound
  refine ⟨shown, hshown, ?_⟩
  rw [printAll, printed, hshown]
  exact printedAs_laidOut most shown

/-! ### Texts without brackets -/

def Bare (a : Automaton) : Prop :=
  '[' ∉ a.name.text.toList ∧ ∀ i < a.count, (∀ m ∈ a.markersAt i, '[' ∉ m.text.toList) ∧
    ∀ e ∈ a.edgesOf i, ∀ v, e.guard = .predicate v → '[' ∉ v.literal.toList

theorem sound_title {name : String} (h : '[' ∉ name.toList) : Sound ("[bold]" ++ name ++ "[/bold]").toList := by
  rw [String.toList_append, String.toList_append]
  exact sound_enclosed (by decide : IsWord "bold".toList) h

theorem sound_rejection {f : Failure} (h : '[' ∉ f.message.toList) : Sound (rejection f) := by
  have hmessage : '[' ∉ "Error loading configuration: ".toList ++ f.message.toList := by
    rw [List.mem_append, not_or]
    exact ⟨by decide, h⟩
  rw [rejection, String.toList_append, String.toList_append]
  exact sound_enclosed (by decide : IsWord "red".toList) hmessage

theorem Bare.soundCells {a : Automaton} (h : Bare a) : SoundCells a := by
  intro i hi
  obtain ⟨hmarkers, hedges⟩ := h.2 i hi
  constructor
  · refine sound_of_notMem (notMem_intercalate (by decide) (List.forall_mem_map.2 fun m hm => ?_))
    exact hmarkers m ((Text.sortByKey_perm _ _).mem_iff.1 hm)
  · refine sound_of_notMem (notMem_join (by decide) (List.forall_mem_map.2 fun e he => ?_))
    have hguard : '[' ∉ guardLabel e := by
      unfold guardLabel
      split
      · decide
      next v hv => exact notMem_escape (hedges e he v hv)
    rw [edgeCell, List.mem_append, not_or]
    exact ⟨hguard, notMem_append.2 ⟨by decide, notMem_toString rfl e.target⟩⟩

/-! ### Requests -/

def Request.file? : Request → Option String
  | .version => none
  | .help _ => none
  | .validate file _ => some file
  | .display file _ => some file
  | .run file _ _ => some file
  | .dot file _ => some file

section Requests

variable [TestFunctions] {folder : Folder} {environment : Environment} {file : String}

omit [TestFunctions] in
theorem withAutomaton_of_ok {a : Automaton} (h : folder.loadAutomaton (some environment) file = .ok a)
    (command : Nat → Automaton → Outcome) :
    withAutomaton folder environment file command = command (columns environment) a := by
  unfold withAutomaton
  rw [h]

omit [TestFunctions] in
theorem withAutomaton_of_error {f : Failure} (h : folder.loadAutomaton (some environment) file = .error f)
    (command : Nat → Automaton → Outcome) :
    withAutomaton folder environment file command = loadFailed (columns environment) f := by
  unfold withAutomaton
  rw [h]

theorem requestOutcome_of_error {f : Failure} (h : folder.loadAutomaton (some environment) file = .error f)
    {request : Request} (hfile : request.file? = some file) :
    requestOutcome folder environment request = loadFailed (columns environment) f := by
  cases request with
  | version | help => cases hfile
  | validate | display | run | dot =>
    obtain rfl := Option.some.inj hfile
    rw [requestOutcome, withAutomaton_of_error h]

end Requests

def oneFile (path text : String) : Folder :=
  ⟨[(path, .file (text.toList.map Char.toNat))]⟩

theorem loadAutomaton_named :
    (oneFile "d.json" "\x7b\"name\":\"m\"\x7d").loadAutomaton (some ⟨[], Environment.defaultLead⟩) "d.json" =
      .ok ⟨.str "m", .ofKind .symbol, [], [], .empty⟩ := by cbv

theorem loadAutomaton_unset :
    (oneFile "d.json" "\x7b\"name\":\"$\x7bA\x7d\"\x7d").loadAutomaton (some ⟨[], Environment.defaultLead⟩) "d.json" =
      .error (.variableUnset "A" Environment.defaultLead) := by cbv

theorem loadAutomaton_closing :
    (oneFile "d.json" "\x7b\"name\":\"[/b]\"\x7d").loadAutomaton (some ⟨[], Environment.defaultLead⟩) "d.json" =
      .ok ⟨.str "[/b]", .ofKind .symbol, [], [], .empty⟩ := by cbv

end GuardedAutomata.CommandLine

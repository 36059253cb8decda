import GuardedAutomata.Proofs.Automaton.Feeding
import GuardedAutomata.Proofs.CommandLine.Display
import GuardedAutomata.Proofs.Definition.Loading
import GuardedAutomata.Proofs.Terminal.Label
import Mathlib

/-!
# Running a text

What the command that runs a text through a loaded automaton reports is told by the paths of the automaton: how much of
the text the longest of them matches, where these end, and whether one that matches all of it ends in a state with a
marker. The exit code tells the last again. Every line of the report is markup that can be shown, so the command never
ends in any other way.
-/

set_option autoImplicit false

namespace GuardedAutomata

/-! ### Words -/

theorem Text.modifyHead_nil_append (parts : List (List Char)) : parts.modifyHead ([] ++ ·) = parts := by
  cases parts <;> rfl

theorem Text.wordsFrom_eq (read cs : List Char) :
    wordsFrom read cs = ((cs.splitOnP isBlank).modifyHead (read ++ ·)).filter (!·.isEmpty) := by
  induction cs generalizing read with
  | nil =>
    rw [wordsFrom, List.splitOnP_nil]
    cases read <;> simp
  | cons c cs ih =>
    rw [wordsFrom, List.splitOnP_cons_eq_if_modifyHead]
    split
    · rw [ih [], modifyHead_nil_append]
      cases read <;> simp
    · rw [ih, List.modifyHead_modifyHead]
      simp [Function.comp_def]

theorem Text.words_eq (cs : List Char) : words cs = (cs.splitOnP isBlank).filter (!·.isEmpty) := by
  rw [words, wordsFrom_eq, modifyHead_nil_append]

/-! ### Paths from the start -/

namespace Automaton

variable [TestFunctions]

/-- A path from state 0 matches the first `k` values of a word and none matches more; `s` are the states where such
paths end. -/
structure LongestMatch (a : Automaton) (w : List Value) (k : Nat) (s : StateSet) : Prop where
  le_length : k ≤ w.length
  matched : ∀ m ≤ w.length, (∃ q, Path a.edgesOf a.factory.storeKind 0 (w.take m) q) ↔ m ≤ k
  mem_ends : ∀ q, q ∈ s ↔ q < a.count ∧ Path a.edgesOf a.factory.storeKind 0 (w.take k) q

variable {a b : Automaton} {w : List Value} {r : Feed}

theorem WellFormed.path_lt (ha : a.WellFormed) {i k : Nat} (hi : i < a.count)
    (hp : Path a.edgesOf a.factory.storeKind i w k) : k < a.count := by
  induction hp with
  | nil => exact hi
  | epsilon he _ ih => exact ih (ha.target_lt he)
  | read he _ _ ih => exact ih (ha.target_lt he)

theorem pos_of_path {i k : Nat} (hp : Path a.edgesOf a.factory.storeKind i w k) (hw : w ≠ []) : 0 < a.count := by
  cases hp with
  | nil => exact absurd rfl hw
  | epsilon he _ => exact Nat.zero_lt_of_lt (lt_count_of_mem_edgesOf he)
  | read he _ _ => exact Nat.zero_lt_of_lt (lt_count_of_mem_edgesOf he)

/-- A path from the frontier of a restart goes on from one that reads nothing. -/
theorem WellFormed.path_from_reset (ha : a.WellFormed) {k : Nat} :
    (∃ i ∈ a.reset.active, Path a.edgesOf a.factory.storeKind i w k) ↔
      k < a.count ∧ Path a.edgesOf a.factory.storeKind 0 w k := by
  constructor
  · rintro ⟨i, hi, hp⟩
    obtain ⟨h0, hleads⟩ := (ha.mem_active_reset i).1 hi
    have hsilent : Leads a.epsilonTargets 0 i :=
      Relation.ReflTransGen.mono (fun _ _ he => ha.mem_epsilonTargets.2 he) _ _ hleads
    have hp0 := ha.path_of_leads hsilent hp
    exact ⟨ha.path_lt h0 hp0, hp0⟩
  · rintro ⟨hk, hp⟩
    exact ⟨0, (ha.mem_active_reset 0).2 ⟨Nat.zero_lt_of_lt hk, .refl⟩, hp⟩

/-- What has been fed from the start is the longest match. -/
theorem Loaded.longestMatch (ha : a.Loaded) (h : a.Fed w b r) : a.LongestMatch w r.consumed b.active where
  le_length := h.le_length
  matched := by
    intro m hm
    rcases Nat.eq_zero_or_pos m with rfl | hpos
    · exact iff_of_true ⟨0, .nil 0⟩ (Nat.zero_le _)
    · have hne : w.take m ≠ [] := by
        rw [Ne, List.take_eq_nil_iff, not_or]
        exact ⟨Nat.ne_of_gt hpos, List.ne_nil_of_length_pos (by omega)⟩
      rw [← h.viable m hm hpos]
      refine exists_congr fun q => ?_
      rw [h.paths ha.builtIn, ha.restarted, ha.wellFormed.path_from_reset]
      exact (and_iff_right_of_imp fun hp => ha.wellFormed.path_lt (pos_of_path hp hne) hp).symm
  mem_ends := fun q => by
    rw [h.mem_active, h.paths ha.builtIn, ha.restarted, ha.wellFormed.path_from_reset]

/-- Texts are fed without a failure, and accepted if a path from the start to a state with a marker matches them. -/
theorem Loaded.fed_texts (ha : a.Loaded) (hw : ∀ v ∈ w, ∃ s, v = .str s) :
    ∃ b r, a.feedList w = (b, .ok r) ∧ a.Fed w b r ∧ (r.accepted = true ↔ a.Accepts w) := by
  have hs : ClosedUnder a.epsilonTargets a.active := by
    rw [ha.restarted]
    exact ha.wellFormed.closedUnder_reset
  have hne : ∀ v ∈ w, v ≠ .epsilon := fun v hv => by
    obtain ⟨s, rfl⟩ := hw v hv
    nofun
  have hanswers : ∀ v ∈ w, a.Answers v := fun v hv => by
    obtain ⟨s, rfl⟩ := hw v hv
    exact ha.answers_str s
  obtain ⟨r, hr⟩ := feedFrom_answers hne hanswers 0
  have hfeed : feedFrom 0 w a = ((feedFrom 0 w a).1, .ok r) := Prod.ext rfl hr
  refine ⟨_, r, hfeed, fed_of_feedFrom ha.wellFormed hs hfeed, ?_⟩
  rw [feedFrom_accepted ha.wellFormed ha.builtIn hs hne hr, ha.restarted, ha.wellFormed.acceptsFrom_reset]

end Automaton

namespace CommandLine

open Automaton Terminal Terminal.Markup Text

/-! ### Values of a text -/

def valuesOf (split : Bool) (text : String) : List Value :=
  if split then ((text.toList.splitOnP isBlank).filter (!·.isEmpty)).map fun part => .str (String.ofList part)
  else text.toList.map Value.ofChar

theorem inputValues_eq (split : Bool) (text : String) : inputValues split text = valuesOf split text := by
  rw [inputValues, words_eq]
  rfl

theorem exists_str_of_mem_valuesOf {split : Bool} {text : String} {v : Value} (h : v ∈ valuesOf split text) :
    ∃ s, v = .str s := by
  unfold valuesOf at h
  split at h
  · obtain ⟨part, -, rfl⟩ := List.mem_map.1 h
    exact ⟨_, rfl⟩
  · obtain ⟨c, -, rfl⟩ := List.mem_map.1 h
    exact ⟨_, rfl⟩

/-! ### Lines of a report -/

theorem printAll_of_plain {most : Nat} {written : Option (String × String)} {ending : Ending} {output : List Char}
    {markups texts : List (List Char)} (h : List.Forall₂ (fun markup text => plain markup = .ok text) markups texts) :
    printAll most written ending output markups = ⟨ending, output ++ texts.flatMap (laidOut most), "", written⟩ := by
  induction h generalizing output with
  | nil => rw [printAll, List.flatMap_nil, List.append_nil]
  | cons hplain _ ih =>
    rw [printAll, printed, hplain]
    simp only
    rw [ih, List.flatMap_cons, List.append_assoc]

/-- What is shown of a text that has been escaped: the text itself, if only brackets in it may stand for something
else. Names of pictographs are replaced, and a backslash may go that stands in front of a bracket. -/
structure ShownEscaped (text shown : List Char) : Prop where
  plain : plain (escape text) = .ok shown
  verbatim : Bracketed text → shown = text
  replaced : '[' ∉ text → '\\' ∉ text → shown = (Emoji.replace text).filter (!isDropped ·)

theorem exists_shownEscaped (cs : List Char) : ∃ shown, ShownEscaped cs shown := by
  obtain ⟨shown, hshown⟩ := (shows_plain (escape cs)).1 (balanced_of_tags_eq_nil (tags_escape cs)).sound
  exact ⟨shown, hshown, fun h => Except.ok.inj (hshown.symm.trans (plain_escape h)),
    fun hopen hslash => Except.ok.inj (hshown.symm.trans (plain_escape_of_notMem hopen hslash))⟩

theorem ordinary_statesText (s : StateSet) : Ordinary (statesText s).toList := by
  have hmarks : Ordinary ("\x7b" ++ ", " ++ "\x7d").toList := by decide +kernel
  exact fun c hc => notMem_statesText (isDigit_of_mem_special hc) (hmarks c hc) s

inductive MarkersShown (markers : List Value) : List (List Char) → Prop
  | absent : markers = [] → MarkersShown markers []
  | listed {shown : List Char} : markers ≠ [] → ShownEscaped (markerList markers).toList shown →
      MarkersShown markers ["Markers: ".toList ++ shown]

inductive Verdict [TestFunctions] (a : Automaton) (w : List Value) (k : Nat) : List Char → Prop
  | accepted : k = w.length → a.Accepts w → Verdict a w k "✓ Accepted".toList
  | unaccepted : k = w.length → ¬ a.Accepts w →
      Verdict a w k "✗ Input consumed but no accept state reached".toList
  | rejected {v : Value} {shown : List Char} : k < w.length → w[k]? = some v → ShownEscaped v.literal.toList shown →
      Verdict a w k (("✗ Rejected at position " ++ toString k ++ ": ").toList ++ shown)

theorem plain_accepted : plain "[green]✓[/green] Accepted".toList = .ok "✓ Accepted".toList := by
  have hrest : Ordinary " Accepted".toList := by decide +kernel
  simpa using plain_marked (by decide : IsWord "green".toList) (by decide : Ordinary ['✓']).isLabel
    hrest.isLabel.plain

theorem plain_unaccepted : plain "[red]✗[/red] Input consumed but no accept state reached".toList =
    .ok "✗ Input consumed but no accept state reached".toList := by
  have hrest : Ordinary " Input consumed but no accept state reached".toList := by decide +kernel
  simpa using plain_marked (by decide : IsWord "red".toList) (by decide : Ordinary ['✗']).isLabel
    hrest.isLabel.plain

theorem plain_rejection (k : Nat) {back shown : List Char} (h : plain back = .ok shown) :
    plain (("[red]✗[/red] Rejected at position " ++ toString k ++ ": ").toList ++ back) =
      .ok (("✗ Rejected at position " ++ toString k ++ ": ").toList ++ shown) := by
  have hfront : IsLabel (" Rejected at position " ++ toString k ++ ": ").toList :=
    isLabel_colon ((by decide +kernel : Ordinary " Rejected at position ".toList).append (ordinary_toString k))
  simpa using plain_marked (by decide : IsWord "red".toList) (by decide : Ordinary ['✗']).isLabel
    (plain_label hfront h)

structure Reports (most : Nat) (ending : Ending) (lines : List (List Char)) (o : Outcome) : Prop where
  outcome : o = ⟨ending, lines.flatMap (laidOut most), "", none⟩
  printed : ∀ line ∈ lines, PrintedAs most line (laidOut most line)

theorem reports_printAll {most : Nat} {ending : Ending} {markups lines : List (List Char)}
    (h : List.Forall₂ (fun markup text => plain markup = .ok text) markups lines) :
    Reports most ending lines (printAll most none ending [] markups) where
  outcome := by rw [printAll_of_plain h, List.nil_append]
  printed line _ := printedAs_laidOut most line

/-! ### The report -/

section Report

variable [TestFunctions] {a : Automaton} {w : List Value} {r : Feed}

/-- The line of the verdict is shown. -/
theorem exists_verdict (hlength : r.consumed ≤ w.length) (hcompleted : r.completed = true ↔ r.consumed = w.length)
    (haccepted : r.accepted = true ↔ a.Accepts w) :
    ∃ verdict, plain (verdictLine w r) = .ok verdict ∧ Verdict a w r.consumed verdict := by
  unfold verdictLine
  by_cases hyes : r.accepted = true
  · rw [if_pos hyes]
    have hall : r.completed = true := (Bool.and_eq_true_iff.1 hyes).1
    exact ⟨_, plain_accepted, .accepted (hcompleted.1 hall) (haccepted.1 hyes)⟩
  · rw [if_neg hyes]
    have hno : ¬ a.Accepts w := fun h => hyes (haccepted.2 h)
    by_cases hall : r.completed = true
    · rw [if_pos hall]
      exact ⟨_, plain_unaccepted, .unaccepted (hcompleted.1 hall) hno⟩
    · rw [if_neg hall]
      have hlt : r.consumed < w.length := Nat.lt_of_le_of_ne hlength fun heq => hall (hcompleted.2 heq)
      have hv : w[r.consumed]? = some w[r.consumed] := List.getElem?_eq_getElem hlt
      obtain ⟨shown, hshown⟩ := exists_shownEscaped w[r.consumed].literal.toList
      refine ⟨_, ?_, .rejected hlt hv hshown⟩
      rw [hv]
      exact plain_rejection r.consumed hshown.plain

def progress (k n : Nat) (s : StateSet) : List (List Char) :=
  [("Consumed: " ++ toString k ++ "/" ++ toString n).toList, ("Active states: " ++ statesText s).toList]

omit [TestFunctions] in
theorem plain_progressLines (w : List Value) (b : Automaton) (r : Feed) :
    List.Forall₂ (fun markup text => plain markup = .ok text) (progressLines w b r)
      (progress r.consumed w.length b.active) := by
  have hconsumed : IsLabel ("Consumed: " ++ toString r.consumed ++ "/" ++ toString w.length).toList := by
    have hcounts := ((ordinary_toString r.consumed).append (by decide : Ordinary "/".toList)).append
      (ordinary_toString w.length)
    simpa using (isLabel_colon (by decide +kernel : Ordinary "Consumed".toList)).append hcounts.isLabel
  have hactive : IsLabel ("Active states: " ++ statesText b.active).toList := by
    simpa using (isLabel_colon (by decide +kernel : Ordinary "Active states".toList)).append
      (ordinary_statesText b.active).isLabel
  exact .cons hconsumed.plain (.cons hactive.plain .nil)

omit [TestFunctions] in
theorem exists_markersShown {verdict : List Char} (hverdict : plain (verdictLine w r) = .ok verdict) :
    ∃ shown, MarkersShown r.markers shown ∧
      List.Forall₂ (fun markup text => plain markup = .ok text) (verdictLines w r) (shown ++ [verdict]) := by
  have hlast : List.Forall₂ (fun markup text => plain markup = .ok text) [verdictLine w r] [verdict] :=
    .cons hverdict .nil
  by_cases hnone : r.markers = []
  · refine ⟨[], .absent hnone, ?_⟩
    rw [verdictLines, hnone]
    exact hlast
  · obtain ⟨shown, hshown⟩ := exists_shownEscaped (markerList r.markers).toList
    refine ⟨_, .listed hnone hshown, ?_⟩
    rw [verdictLines, if_neg (by simpa using hnone)]
    have hmarkers : IsLabel "Markers: ".toList := isLabel_colon (by decide +kernel : Ordinary "Markers".toList)
    exact .cons (plain_label hmarkers hshown.plain) hlast

/-! ### Runs -/

section Outcome

variable {b : Automaton} {most : Nat} {split : Bool} {text : String}

theorem runOutcome_of_written (hfeed : a.feedList (inputValues split text) = (b, .ok r))
    (ht : Value.allHaveText r.markers = true) :
    runOutcome most split text a = printAll most none (.exit (if r.accepted then 0 else 1)) []
      (progressLines (inputValues split text) b r ++ verdictLines (inputValues split text) r) := by
  unfold runOutcome Value.checkTexts
  dsimp only
  rw [hfeed]
  dsimp only
  rw [if_pos ht]

theorem runOutcome_of_unwritten (hfeed : a.feedList (inputValues split text) = (b, .ok r))
    (ht : Value.allHaveText r.markers = false) :
    runOutcome most split text a =
      printAll most none (.raised (.fault (.longInteger none))) [] (progressLines (inputValues split text) b r) := by
  unfold runOutcome Value.checkTexts
  dsimp only
  rw [hfeed]
  dsimp only
  rw [if_neg (Bool.eq_false_iff.1 ht)]

end Outcome

end Report

def letterFolder : Folder :=
  oneFile "d.json" ("\x7b\"states\":[\x7b\"id\":0\x7d,\x7b\"id\":1,\"markers\":[\"m\"]\x7d]," ++
    "\"transitions\":[\x7b\"from\":0,\"to\":1,\"guard\":\"a\"\x7d]\x7d")

theorem readValue_letter : letterFolder.readValue "d.json" = .ok (.dict
    [(.str "states", .list [.dict [(.str "id", .int 0)],
      .dict [(.str "id", .int 1), (.str "markers", .list [.str "m"])]]),
    (.str "transitions", .list [.dict [(.str "from", .int 0), (.str "to", .int 1), (.str "guard", .str "a")]])]) := by
  cbv

def letterAutomaton : Automaton :=
  ⟨.str "automaton", .ofKind .symbol, [⟨.symbol, [⟨.predicate (.str "a"), 1⟩], [], .groups [(.str "a", [1])]⟩,
    .empty .symbol], [[], [.str "m"]], .ofList [0]⟩

theorem loadAutomaton_letter :
    letterFolder.loadAutomaton (some ⟨[], Environment.defaultLead⟩) "d.json" = .ok letterAutomaton := by
  rw [Folder.loadAutomaton, Folder.readDefinition, readValue_letter]
  cbv

section Letter

variable [TestFunctions]

theorem path_letter : Path letterAutomaton.edgesOf .symbol 0 [.str "a"] 1 :=
  .read (List.mem_singleton_self _) (.equal (by simp [Value.equal])) (.nil 1)

theorem not_path_letters (q : Nat) : ¬ Path letterAutomaton.edgesOf .symbol 0 [.str "a", .str "b"] q := by
  intro hp
  cases hp with
  | epsilon he _ => cases List.mem_singleton.1 he
  | read he _ hp =>
    cases List.mem_singleton.1 he
    cases hp with
    | epsilon he _ => cases he
    | read he _ _ => cases he

end Letter

theorem allHaveText_letter (order : List Nat) :
    Value.allHaveText (joinMarkers (order.map letterAutomaton.markersAt)) = true := by
  refine Value.allHaveText_iff.2 fun m hm => ?_
  obtain ⟨vs, hvs, hm⟩ := mem_of_mem_joinMarkers hm
  obtain ⟨i, -, rfl⟩ := List.mem_map.1 hvs
  match i with
  | 0 => cases hm
  | 1 => exact List.mem_singleton.1 hm ▸ rfl
  | _ + 2 => cases hm

theorem shownEscaped_letter {shown : List Char} (h : ShownEscaped (Value.str "b").literal.toList shown) :
    shown = "'b'".toList := by
  have hliteral : (Value.str "b").literal = Text.quoted "b" := rfl
  rw [hliteral] at h
  exact h.verbatim (by decide)

def bareFolder : Folder :=
  oneFile "d.json" "\x7b\"states\":[\x7b\"id\":0\x7d]\x7d"

theorem loadAutomaton_bare : bareFolder.loadAutomaton (some ⟨[], Environment.defaultLead⟩) "d.json" =
    .ok ⟨.str "automaton", .ofKind .symbol, [.empty .symbol], [[]], .ofList [0]⟩ := by cbv

theorem plain_escape_medal : plain (escape "':1st_place_medal:'".toList) = .ok "'🥇'".toList := by
  have hreplace : (Emoji.replace "':1st_place_medal:'".toList).filter (!isDropped ·) = "'🥇'".toList := by
    decide +kernel
  rw [plain_escape_of_notMem (by decide) (by decide), hreplace]

end CommandLine

end GuardedAutomata

import Headline.Proofs.Document.Step
import Mathlib.Data.List.Induction

/-!
# Runs that close too much

A run of tokens may close more than it opens. The token at which closings outnumber openings for
the first time closes the document itself (`ClosesRoot`), which is no fault. From there on
openings that become no blocks are still counted, and their closings are as harmless as they are.
But a token that needs a block finds none, and a closing without such an opening finds nothing
open (`faultAfter`). The first of these tokens decides how the construction fails, and if there is
none, the tree is the one that was there when the document was closed (`ofTokens_breaks_iff`).

What carries this is a count. Before the document is closed, what is open in a state is as much
as the depth of the run (`openCount`). Afterwards only openings are left that are counted, and
these are the ones of the run since (`run_fit`).
-/

namespace Headline

namespace Token

/-- Whether a token becomes a block or gives its text to one. -/
def isTracked (t : Token) : Bool := t.isBlock || t.isInline

theorem isTracked_closing {t : Token} (h : t.isClosing = true) : t.isTracked = false := by
  simp [isTracked, isBlock, isInline, blockKind?_closing h, h]

end Token

namespace Tree

open Nesting

/-- The token behind a run closes the document: for the first time, there are more closings than
openings. -/
structure ClosesRoot (before : List Token) (t : Token) : Prop where
  sofar : NeverOverclosed before
  more : (before ++ [t]).countP Token.isOpening < (before ++ [t]).countP Token.isClosing

/-- The fault of a token that comes after the document was closed and the given tokens behind
that: it needs a block, or closes what no opening among these tokens has opened. -/
def faultAfter (since : List Token) (t : Token) : Option TreeFault :=
  if t.isTracked then some .rootLost
  else if t.isClosing && (opens since).isEmpty then some .nothingOpen
  else none

/-- None of the tokens is a fault after the document was closed. -/
def Fit (since : List Token) : Prop :=
  ∀ earlier t, earlier ++ [t] <+: since → faultAfter earlier t = none

/-- The document is closed, and the first token behind that which is a fault has the given one. -/
def BreaksWith (tokens : List Token) (fault : TreeFault) : Prop :=
  ∃ before t since u rest, tokens = before ++ t :: (since ++ u :: rest)
    ∧ ClosesRoot before t ∧ Fit since ∧ faultAfter since u = some fault

variable {ts before since after rest tokens : List Token} {t u : Token} {f g : Frame}
  {outer : List Frame} {fault : TreeFault}

/-! ## Runs and their first faults -/

theorem neverOverclosed_concat :
    NeverOverclosed (ts ++ [t]) ↔ NeverOverclosed ts ∧ 0 ≤ depth (ts ++ [t]) := by
  constructor
  · exact fun h => ⟨h.of_append, h.depth_nonneg⟩
  · rintro ⟨hts, hlast⟩ before hbefore
    rcases List.prefix_concat_iff.mp hbefore with rfl | hbefore
    · rw [depth] at hlast
      omega
    · exact hts before hbefore

theorem fit_concat : Fit (since ++ [u]) ↔ Fit since ∧ faultAfter since u = none := by
  constructor
  · intro h
    refine ⟨fun earlier t hearlier => ?_, h since u (List.prefix_refl _)⟩
    exact h earlier t (hearlier.trans (List.prefix_append since [u]))
  · rintro ⟨hsince, hlast⟩ earlier t hearlier
    rcases List.prefix_concat_iff.mp hearlier with heq | hearlier
    · obtain ⟨rfl, hlasts⟩ := List.append_inj' heq rfl
      obtain ⟨rfl, -⟩ := List.cons.inj hlasts
      exact hlast
    · exact hsince earlier t hearlier

theorem fit_nil : Fit [] := by
  intro earlier t h
  simp at h

/-- A run has a property of runs, or there is a first token at which it is lost. -/
theorem exists_first {P : List Token → Prop} (hnil : P []) (ts : List Token) :
    P ts ∨ ∃ before t after, ts = before ++ t :: after ∧ P before ∧ ¬P (before ++ [t]) := by
  induction ts using List.reverseRecOn with
  | nil => exact Or.inl hnil
  | append_singleton ts t ih =>
      rcases ih with hts | ⟨before, u, after, rfl, hbefore, hlost⟩
      · by_cases hlast : P (ts ++ [t])
        · exact Or.inl hlast
        · exact Or.inr ⟨ts, t, [], rfl, hts, hlast⟩
      · exact Or.inr ⟨before, u, after ++ [t], by simp, hbefore, hlost⟩

/-- Every run keeps the document open to its end or has a token that closes it. -/
theorem neverOverclosed_or_closesRoot (tokens : List Token) : NeverOverclosed tokens ∨
    ∃ before t after, tokens = before ++ t :: after ∧ ClosesRoot before t := by
  refine (exists_first (P := NeverOverclosed) (by decide) tokens).imp_right ?_
  rintro ⟨before, t, after, htokens, hbefore, hlost⟩
  refine ⟨before, t, after, htokens, hbefore, ?_⟩
  by_contra hmore
  refine hlost (neverOverclosed_concat.mpr ⟨hbefore, ?_⟩)
  rw [depth]
  omega

/-- Every run behind the closing of the document is fit or has a first token that is not. -/
theorem fit_or_exists_fault (after : List Token) : Fit after ∨
    ∃ since u rest fault, after = since ++ u :: rest ∧ Fit since
      ∧ faultAfter since u = some fault := by
  refine (exists_first fit_nil after).imp_right ?_
  rintro ⟨since, u, rest, hafter, hsince, hlost⟩
  cases hfault : faultAfter since u with
  | none => exact absurd (fit_concat.mpr ⟨hsince, hfault⟩) hlost
  | some fault => exact ⟨since, u, rest, fault, hafter, hsince, hfault⟩

/-! ## Before the document is closed -/

variable (lines : List String)

/-- How much is open in a state, the document itself apart. -/
def openCount (f : Frame) : List Frame → Nat
  | [] => f.counted
  | g :: outer => f.counted + 1 + openCount g outer

theorem openCount_congr (h : g.counted = f.counted) : openCount g outer = openCount f outer := by
  cases outer with
  | nil => exact h
  | cons _ _ => rw [openCount, openCount, h]

theorem openCount_counted (f : Frame) (n : Nat) (outer : List Frame) :
    openCount { f with counted := n } outer + f.counted = openCount f outer + n := by
  cases outer <;> simp only [openCount] <;> omega

/-- One token before the document is closed: as much is open as the depth of the run says, unless
nothing was open and the token closes the document. -/
theorem step_within (hdepth : t.name = "heading_open" → t.depthOfTag.isOk = true)
    (hopens : (openCount f outer : Int) = depth ts) :
    (∃ f' outer', (State.within f outer).step lines t = .ok (.within f' outer')
      ∧ (openCount f' outer' : Int) = depth (ts ++ [t]))
    ∨ (depth (ts ++ [t]) = -1 ∧ outer = []
      ∧ (State.within f outer).step lines t = .ok (.lost (turned f.block) 0)) := by
  cases hopen : t.isOpening with
  | true =>
      rw [depth_concat_opening hopen]
      left
      cases hkind : t.blockKind? with
      | none =>
          have hcount := openCount_counted f (f.counted + 1) outer
          exact ⟨_, _, step_counts hopen hkind, by omega⟩
      | some kind =>
          obtain ⟨b, hnew, -⟩ := newBlock_ok lines hkind hdepth
          have hcount : openCount ⟨b, 0⟩ (f :: outer) = openCount f outer + 1 := by
            show 0 + 1 + openCount f outer = openCount f outer + 1
            omega
          refine ⟨⟨b, 0⟩, f :: outer, ?_, by omega⟩
          rw [step_opens hopen hkind, hnew]
          rfl
  | false =>
      cases hclose : t.isClosing with
      | true =>
          rw [depth_concat_closing hclose]
          cases hcounted : f.counted with
          | succ n =>
              left
              have hcount := openCount_counted f n outer
              exact ⟨_, _, step_uncounts hclose hcounted, by omega⟩
          | zero =>
              cases outer with
              | nil =>
                  right
                  rw [openCount, hcounted] at hopens
                  exact ⟨by omega, rfl, step_leaves hclose hcounted⟩
              | cons g outer =>
                  left
                  have hcount : openCount (g.add (turned f.block)) outer = openCount g outer :=
                    openCount_congr rfl
                  rw [openCount, hcounted] at hopens
                  exact ⟨_, _, step_leaves hclose hcounted, by omega⟩
      | false =>
          rw [depth_concat_other hopen hclose]
          left
          cases hinline : t.isInline with
          | true =>
              have hcount : openCount (f.addInline t) outer = openCount f outer :=
                openCount_congr (addInline_same f t).2
              exact ⟨_, _, step_inlines hinline, by omega⟩
          | false =>
              cases hkind : t.blockKind? with
              | none => exact ⟨_, _, step_skips hopen hclose hinline hkind, hopens⟩
              | some kind =>
                  obtain ⟨b, hnew, -⟩ := newBlock_ok lines hkind hdepth
                  have hcount : openCount (f.add { b with content := t.content }) outer =
                      openCount f outer := openCount_congr rfl
                  refine ⟨f.add { b with content := t.content }, outer, ?_, by omega⟩
                  rw [step_adds hopen hclose hinline hkind, hnew]
                  rfl

/-- The state in which a tree is begun. -/
def start (file : Option String) : State := .within ⟨Block.document file [], 0⟩ []

def DepthsReadable (tokens : List Token) : Prop :=
  ∀ t ∈ tokens, t.name = "heading_open" → t.depthOfTag.isOk = true

/-- A run that keeps the document open goes through, whether or not all is closed at its end. -/
theorem run_within (file : Option String) (h : NeverOverclosed ts) (hdepths : DepthsReadable ts) :
    ∃ f outer, (start file).run lines ts = .ok (.within f outer)
      ∧ (openCount f outer : Int) = depth ts := by
  induction ts using List.reverseRecOn with
  | nil => exact ⟨_, _, rfl, rfl⟩
  | append_singleton ts t ih =>
      obtain ⟨f, outer, hrun, hopens⟩ := ih h.of_append fun u hu => hdepths u (by simp [hu])
      rw [State.run_append, hrun]
      show ∃ f' outer', (State.within f outer).run lines [t] = _ ∧ _
      rw [State.run_singleton]
      rcases step_within lines (hdepths t (by simp)) hopens with hstep | ⟨hlost, -⟩
      · exact hstep
      · have hdepth := h.depth_nonneg
        omega

/-- The token that closes the document finishes it: it is the tree of the tokens before. -/
theorem run_closesRoot (file : Option String) (h : ClosesRoot before t)
    (hdepths : DepthsReadable (before ++ [t])) :
    ∃ d, ofTokens lines file before = .ok d
      ∧ (start file).run lines (before ++ [t]) = .ok (.lost d 0) := by
  obtain ⟨f, outer, hrun, hopens⟩ :=
    run_within lines file h.sofar fun u hu => hdepths u (by simp [hu])
  have hnegative : depth (before ++ [t]) < 0 := by
    have hmore := h.more
    rw [depth]
    omega
  rcases step_within lines (hdepths t (by simp)) hopens with
    ⟨f', outer', -, hcount⟩ | ⟨-, rfl, hstep⟩
  · omega
  · refine ⟨turned f.block, ?_, ?_⟩
    · rw [ofTokens, ← start, hrun]
      rfl
    · rw [State.run_append, hrun]
      show (State.within f []).run lines [t] = _
      rw [State.run_singleton, hstep]

/-! ## After the document is closed -/

/-- One token after the document is closed. -/
theorem step_lost (d : Block) (n : Nat)
    (hdepth : t.name = "heading_open" → t.depthOfTag.isOk = true) :
    (State.lost d n).step lines t =
      if t.isTracked then .error .rootLost
      else if t.isOpening then .ok (.lost d (n + 1))
      else if t.isClosing then (if n = 0 then .error .nothingOpen else .ok (.lost d (n - 1)))
      else .ok (.lost d n) := by
  cases hopen : t.isOpening with
  | true =>
      have hnesting : t.nesting = 1 := by simpa [Token.isOpening] using hopen
      have hname := Token.blockKind?_opening hopen
      simp only [State.step, if_pos hnesting, ← hname, Token.isTracked,
        Token.isInline_opening hopen, Token.isBlock]
      cases hkind : t.blockKind? with
      | none => rfl
      | some kind =>
          obtain ⟨b, hnew, -⟩ := newBlock_ok lines hkind hdepth
          simp only [hnew]
          rfl
  | false =>
      have hnesting : t.nesting ≠ 1 := by simpa [Token.isOpening] using hopen
      simp only [State.step, if_neg hnesting]
      cases hclose : t.isClosing with
      | true =>
          have hback : t.nesting = -1 := by simpa [Token.isClosing] using hclose
          rw [if_pos hback, Token.isTracked_closing hclose]
          cases n <;> rfl
      | false =>
          have hback : t.nesting ≠ -1 := by simpa [Token.isClosing] using hclose
          have hname := Token.blockKind?_other hopen hclose
          have hinline : t.isInline = (t.name == "inline") := by
            simp [Token.isInline, hopen, hclose]
          rw [if_neg hback, ← hname, ← hinline, Token.isTracked, Token.isBlock]
          cases t.isInline <;> cases t.blockKind? <;> rfl

theorem depth_pos_of_opens (h : NeverOverclosed ts) (hopens : opens ts ≠ []) : 0 < depth ts := by
  have hdepths := depths_opens h
  by_contra hdepth
  have hzero : (depth ts).toNat = 0 := by omega
  rw [hzero, below, List.map_eq_nil_iff] at hdepths
  exact hopens hdepths

theorem neverOverclosed_of_fit (h : Fit since) : NeverOverclosed since := by
  induction since using List.reverseRecOn with
  | nil => decide
  | append_singleton since u ih =>
      obtain ⟨hsince, hlast⟩ := fit_concat.mp h
      have hnever := ih hsince
      refine neverOverclosed_concat.mpr ⟨hnever, ?_⟩
      have hdepth := hnever.depth_nonneg
      cases hclose : u.isClosing with
      | true =>
          have hopens : opens since ≠ [] := by
            intro hnil
            simp [faultAfter, Token.isTracked_closing hclose, hclose, hnil] at hlast
          have hpos := depth_pos_of_opens hnever hopens
          rw [depth_concat_closing hclose]
          omega
      | false =>
          cases hopen : u.isOpening with
          | true =>
              rw [depth_concat_opening hopen]
              omega
          | false => rwa [depth_concat_other hopen hclose]

/-- What a token does after the document is closed and fit tokens have come. -/
theorem step_fit (d : Block) (h : Fit since)
    (hdepth : u.name = "heading_open" → u.depthOfTag.isOk = true) :
    (State.lost d (opens since).length).step lines u =
      match faultAfter since u with
      | some fault => .error fault
      | none => .ok (.lost d (opens (since ++ [u])).length) := by
  have hnever := neverOverclosed_of_fit h
  rw [step_lost lines d _ hdepth, faultAfter]
  cases htracked : u.isTracked with
  | true => rfl
  | false =>
      cases hopen : u.isOpening with
      | true => simp [Token.isClosing_eq_false hopen, opens_concat_opening hopen]
      | false =>
          cases hclose : u.isClosing with
          | true =>
              rw [opens_concat_closing hnever hclose]
              cases opens since <;> simp
          | false => simp [opens_concat_other hopen hclose]

theorem run_fit (d : Block) (h : Fit since) (hdepths : DepthsReadable since) :
    (State.lost d 0).run lines since = .ok (.lost d (opens since).length) := by
  induction since using List.reverseRecOn with
  | nil => rfl
  | append_singleton since u ih =>
      obtain ⟨hsince, hlast⟩ := fit_concat.mp h
      rw [State.run_append, ih hsince fun v hv => hdepths v (by simp [hv])]
      show (State.lost d (opens since).length).run lines [u] = _
      rw [State.run_singleton, step_fit lines d hsince (hdepths u (by simp)), hlast]

/-! ## Whole runs -/

theorem ofTokens_of_breaksWith (file : Option String) (h : BreaksWith tokens fault)
    (hdepths : DepthsReadable tokens) : ofTokens lines file tokens = .error fault := by
  obtain ⟨before, t, since, u, rest, rfl, hcloses, hfit, hfault⟩ := h
  obtain ⟨d, -, hrun⟩ := run_closesRoot lines file hcloses
    fun v hv => hdepths v (by simp at hv ⊢; tauto)
  have hsince := run_fit lines d hfit fun v hv => hdepths v (by simp [hv])
  have hstep := step_fit lines d hfit (hdepths u (by simp))
  rw [hfault] at hstep
  rw [List.append_cons, ofTokens, ← start, State.run_append, hrun]
  show ((State.lost d 0).run lines (since ++ u :: rest)).map State.document = _
  rw [State.run_append, hsince]
  show ((State.lost d (opens since).length).run lines (u :: rest)).map State.document = _
  rw [State.run, hstep]
  rfl

theorem ofTokens_of_fit (file : Option String) (h : ClosesRoot before t) (hfit : Fit after)
    (hdepths : DepthsReadable (before ++ t :: after)) :
    ∃ d, ofTokens lines file before = .ok d
      ∧ ofTokens lines file (before ++ t :: after) = .ok d := by
  obtain ⟨d, htree, hrun⟩ := run_closesRoot lines file h
    fun v hv => hdepths v (by simp at hv ⊢; tauto)
  have hafter := run_fit lines d hfit fun v hv => hdepths v (by simp [hv])
  refine ⟨d, htree, ?_⟩
  rw [List.append_cons, ofTokens, ← start, State.run_append, hrun]
  show ((State.lost d 0).run lines after).map State.document = _
  rw [hafter]
  rfl

theorem ofTokens_of_neverOverclosed (file : Option String) (h : NeverOverclosed tokens)
    (hdepths : DepthsReadable tokens) : ∃ d, ofTokens lines file tokens = .ok d := by
  obtain ⟨f, outer, hrun, -⟩ := run_within lines file h hdepths
  exact ⟨closeAll f outer, by rw [ofTokens, ← start, hrun]; rfl⟩

theorem ofTokens_of_not_breaksWith (file : Option String) (h : ∀ fault, ¬BreaksWith tokens fault)
    (hdepths : DepthsReadable tokens) : ∃ d, ofTokens lines file tokens = .ok d
      ∧ ∀ before t after, tokens = before ++ t :: after → ClosesRoot before t →
        ofTokens lines file before = .ok d := by
  have hfits : ∀ before t after, tokens = before ++ t :: after → ClosesRoot before t →
      Fit after := by
    rintro before t after rfl hcloses
    refine (fit_or_exists_fault after).resolve_right ?_
    rintro ⟨since, u, rest, fault, rfl, hfit, hfault⟩
    exact h fault ⟨before, t, since, u, rest, rfl, hcloses, hfit, hfault⟩
  have htree : ∃ d, ofTokens lines file tokens = .ok d := by
    rcases neverOverclosed_or_closesRoot tokens with hnever | ⟨before, t, after, rfl, hcloses⟩
    · exact ofTokens_of_neverOverclosed lines file hnever hdepths
    · obtain ⟨d, -, hd⟩ := ofTokens_of_fit lines file hcloses (hfits _ _ _ rfl hcloses) hdepths
      exact ⟨d, hd⟩
  obtain ⟨d, hd⟩ := htree
  refine ⟨d, hd, ?_⟩
  rintro before t after rfl hcloses
  obtain ⟨d', hbefore, hd'⟩ := ofTokens_of_fit lines file hcloses (hfits _ _ _ rfl hcloses) hdepths
  rw [hd] at hd'
  cases hd'
  exact hbefore

/-- **When tokens have no tree.** Let the depths of all headings be readable. The construction
fails exactly if the document is closed and a later token needs a block, or closes what nothing
since has opened; the first such token says which of the two it is. Otherwise there is a tree,
whatever is still open at the end, and if the document was closed on the way, it is the tree of the
tokens before. -/
theorem ofTokens_breaks_iff (file : Option String) (hdepths : DepthsReadable tokens) :
    (∀ fault, ofTokens lines file tokens = .error fault ↔ BreaksWith tokens fault)
    ∧ ((∀ fault, ¬BreaksWith tokens fault) → ∃ d, ofTokens lines file tokens = .ok d
      ∧ ∀ before t after, tokens = before ++ t :: after → ClosesRoot before t →
        ofTokens lines file before = .ok d) := by
  refine ⟨fun fault => ⟨fun herror => ?_, fun h => ofTokens_of_breaksWith lines file h hdepths⟩,
    fun h => ofTokens_of_not_breaksWith lines file h hdepths⟩
  by_cases hbreaks : ∃ fault', BreaksWith tokens fault'
  · obtain ⟨fault', hbreaks⟩ := hbreaks
    have heq := (ofTokens_of_breaksWith lines file hbreaks hdepths).symm.trans herror
    cases heq
    exact hbreaks
  · obtain ⟨d, hd, -⟩ :=
      ofTokens_of_not_breaksWith lines file (fun fault' h => hbreaks ⟨fault', h⟩) hdepths
    rw [hd] at herror
    cases herror

/-- A heading, a closing too many, and behind it a row that is opened and closed. -/
def closedRow : List Token :=
  [.opening "heading_open" "h2" 0 1, .closing "heading_close" "h2", .plain "section_close" (-1),
   .plain "tr_open" 1, .plain "tr_close" (-1)]

/-- The same with the row closed twice, and a rule after all. -/
def twiceClosedRow : List Token :=
  closedRow ++ [.plain "tr_close" (-1), .leaf "hr" "" 2 3]

theorem ofTokens_breaks_iff_closedRow :
    DepthsReadable closedRow ∧ (∀ fault, ¬BreaksWith closedRow fault)
    ∧ (∃ d, ofTokens [] none closedRow = .ok d ∧ ofTokens [] none (closedRow.take 2) = .ok d)
    ∧ DepthsReadable twiceClosedRow ∧ BreaksWith twiceClosedRow .nothingOpen
    ∧ ofTokens [] none twiceClosedRow = .error .nothingOpen := by
  have hdepths : DepthsReadable closedRow := by unfold DepthsReadable; decide
  have hdepths' : DepthsReadable twiceClosedRow := by unfold DepthsReadable; decide
  have hcloses : ClosesRoot (closedRow.take 2) (.plain "section_close" (-1)) :=
    ⟨by decide, by decide⟩
  have hfit : Fit [.plain "tr_open" 1, .plain "tr_close" (-1)] :=
    fit_concat.mpr ⟨fit_concat.mpr ⟨fit_nil, by decide⟩, by decide⟩
  have hbreaks : BreaksWith twiceClosedRow .nothingOpen :=
    ⟨_, _, _, .plain "tr_close" (-1), _, rfl, hcloses, hfit, by decide⟩
  obtain ⟨hfails, htree⟩ := ofTokens_breaks_iff [] none hdepths
  have hnone : ∀ fault, ¬BreaksWith closedRow fault := by
    intro fault hbreaks
    have hok : (ofTokens [] none closedRow).isOk = true := by decide
    rw [(hfails fault).mpr hbreaks] at hok
    cases hok
  obtain ⟨d, hd, hbefore⟩ := htree hnone
  exact ⟨hdepths, hnone, ⟨d, hd, hbefore _ _ _ rfl hcloses⟩, hdepths', hbreaks,
    ((ofTokens_breaks_iff [] none hdepths').1 _).mpr hbreaks⟩

end Tree

end Headline

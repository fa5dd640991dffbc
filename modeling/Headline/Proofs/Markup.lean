import Headline.Proofs.Check
import Headline.Proofs.Document.Source
import Headline.Proofs.Document.Spans

/-!
# Markup does not matter

A heading is judged by its spans, and these do not show how the text was marked: with marks of
emphasis or of links or without, with empty texts in between, cut here or there. So a document in
which the tokens of a heading are exchanged for such ones has the same tree
(`ofTokens_heading_congr`), and headings of any two documents that differ in no more than this are
judged alike, even if their sources differ.
-/

namespace Headline

open Token Block

namespace Tree

variable {lines : List String} {t u h : Token} {s : State} {f : Frame} {outer : List Frame}

/-- The opening of a heading is a fault, or it opens a heading. -/
theorem step_opensHeading (hopens : h.opensHeading = true) (s : State) :
    (∃ e, s.step lines h = .error e) ∨
      ∃ f outer, s.step lines h = .ok (.within f outer) ∧ f.block.kind = .heading := by
  simp only [opensHeading, Bool.and_eq_true, beq_iff_eq] at hopens
  obtain ⟨hopen, hname⟩ := hopens
  have hkind : h.blockKind? = some .heading := by
    rw [blockKind?_opening hopen, hname]
    decide
  cases hstep : s.step lines h with
  | error e => exact Or.inl ⟨e, rfl⟩
  | ok s' =>
      right
      cases s with
      | lost d n =>
          -- after the document was closed, no block can be opened
          cases stepped hstep with
          | lost d m n hnone => rw [hkind] at hnone; cases hnone
      | within f outer =>
          rw [step_opens hopen hkind] at hstep
          cases hnew : newBlock lines .heading h with
          | error e => rw [hnew] at hstep; cases hstep
          | ok b =>
              rw [hnew] at hstep
              cases hstep
              exact ⟨⟨b, 0⟩, f :: outer, rfl, congrArg Excerpt.kind (newBlock_excerpt hnew).1⟩

/-- Of the text of a heading, its spans are all that goes into a tree. -/
theorem ofTokens_heading_congr (file : Option String) (hopens : h.opensHeading = true)
    (ht : t.isInline = true) (hu : u.isInline = true)
    (hspans : ∀ line, spans line t.children = spans line u.children)
    (before after : List Token) :
    ofTokens lines file (before ++ h :: t :: after) =
      ofTokens lines file (before ++ h :: u :: after) := by
  have hrun : ∀ s : State, s.run lines (h :: t :: after) = s.run lines (h :: u :: after) := by
    intro s
    rw [State.run, State.run]
    rcases step_opensHeading hopens s with ⟨e, hstep⟩ | ⟨f, outer, hstep, hkind⟩
    · rw [hstep]
      rfl
    · have hsame : (State.within f outer).step lines t = (State.within f outer).step lines u := by
        rw [step_inlines ht, step_inlines hu, Frame.addInline, Frame.addInline]
        simp only [if_pos hkind, hspans]
      rw [hstep]
      show (State.within f outer).run lines (t :: after) =
        (State.within f outer).run lines (u :: after)
      rw [State.run, State.run, hsame]
  rw [ofTokens, ofTokens, State.run_append, State.run_append]
  congr 2
  funext s
  exact hrun s

end Tree

namespace Check

/-- Headings with the same spans are judged alike, but for the node that is reported. -/
theorem heading_congr {h h' : Block} (hchildren : h'.children = h.children) (o : RuleOptions)
    (index : Int) (l : Ledger) : ∃ found found' ledger,
      (heading o h index l).Yields (found, ledger) ∧ (heading o h' index l).Yields (found', ledger)
        ∧ found'.map Finding.report = found.map Finding.report := by
  have htitle : titleOf o h' = titleOf o h := by
    rw [titleOf, titleOf, headingText, headingText, hchildren]
  have hyields := heading_yields o h' index l
  rw [htitle] at hyields
  refine ⟨_, _, _, heading_yields o h index l, hyields, ?_⟩
  by_cases hknown : titleOf o h ∈ l.titles
  · rw [if_pos hknown, if_pos hknown]
  rw [if_neg hknown, if_neg hknown, verdict, verdict, htitle]
  split <;> rfl

/-- **Markup does not matter.** The spans of tokens are flat, and their code is that of the tokens.
They stay the same if the tokens are remarked; so does the tree of any run of tokens if that is
done with the text of a heading, and what is found wrong with a heading of these spans and what
the ledger learns from it. -/
theorem markup_does_not_matter (line : Int) (ts : List Token) :
    Flat line (spans line ts)
    ∧ (spans line ts).filter (·.kind = .inlineCode) =
      (ts.filter isCode).map (fun t => codeSpan line t.markup t.content)
    ∧ ∀ us, Remarked ts us → spans line us = spans line ts
      ∧ (∀ lines file before h t u after, h.opensHeading = true →
        t.isInline = true → t.children = ts → u.isInline = true → u.children = us →
        Tree.ofTokens lines file (before ++ h :: t :: after) =
          Tree.ofTokens lines file (before ++ h :: u :: after))
      ∧ ∀ (h h' : Block) o index l, h.children = spans line ts → h'.children = spans line us →
        ∃ found found' ledger, (heading o h index l).Yields (found, ledger)
          ∧ (heading o h' index l).Yields (found', ledger)
          ∧ found'.map Finding.report = found.map Finding.report := by
  refine ⟨flat_spans line ts, codes_spans line ts, fun us hremarked => ⟨?_, ?_, ?_⟩⟩
  · exact (spans_eq_of_remarked hremarked line).symm
  · rintro lines file before h t u after hopens ht rfl hu rfl
    exact Tree.ofTokens_heading_congr file hopens ht hu (spans_eq_of_remarked hremarked) before
      after
  · intro h h' o index l hh hh'
    refine heading_congr ?_ o index l
    rw [hh, hh', spans_eq_of_remarked hremarked line]

/-- The text `Foo bar` with its second word emphasised. -/
def emphasised : List Token :=
  [.text "Foo ", .plain "em_open" 1, .text "bar", .plain "em_close" (-1)]

/-- A heading with the given tokens as its text. -/
def headingTokens (raw : String) (ts : List Token) : List Token :=
  [.opening "heading_open" "h2" 0 1, ⟨"inline", 0, "", none, raw, "", ts⟩,
   .closing "heading_close" "h2"]

/-- A heading with the given source and the spans of the given tokens. -/
def headingOf (raw : String) (ts : List Token) : Block :=
  ⟨.heading, "Foo bar", raw, 1, 2, none, spans 1 ts⟩

theorem markup_does_not_matter_emphasised :
    let o : RuleOptions := ⟨.ofWords defaultWords [], false, []⟩
    Remarked emphasised [.text "Foo bar"]
    ∧ spans 1 [.text "Foo bar"] = spans 1 emphasised
    ∧ Tree.ofTokens [] none (headingTokens "Foo *bar*" emphasised) =
      Tree.ofTokens [] none (headingTokens "Foo bar" [.text "Foo bar"])
    ∧ ∃ found found' ledger,
      (heading o (headingOf "## Foo *bar*" emphasised) 0 .empty).Yields (found, ledger)
      ∧ (heading o (headingOf "## Foo bar" [.text "Foo bar"]) 0 .empty).Yields (found', ledger)
      ∧ found'.map Finding.report = found.map Finding.report := by
  intro o
  have hopening : Remarked emphasised [.text "Foo ", .text "bar", .plain "em_close" (-1)] :=
    .mark [.text "Foo "] [.text "bar", .plain "em_close" (-1)] (by decide)
  have hclosing : Remarked [.text "Foo ", .text "bar", .plain "em_close" (-1)]
      [.text "Foo ", .text "bar"] := .mark [.text "Foo ", .text "bar"] [] (by decide)
  have hcut : Remarked [.text "Foo bar"] [.text "Foo ", .text "bar"] :=
    .cut [] [] (by decide) (by decide) (by decide) (by decide)
  have hremarked := (hopening.trans hclosing).trans hcut.symm
  obtain ⟨hspans, htree, hchecks⟩ := (markup_does_not_matter 1 emphasised).2.2 _ hremarked
  exact ⟨hremarked, hspans,
    htree [] none [] (.opening "heading_open" "h2" 0 1) _ _ [.closing "heading_close" "h2"]
      (by decide) (by decide) rfl (by decide) rfl,
    hchecks _ _ o 0 .empty rfl rfl⟩

end Check

end Headline

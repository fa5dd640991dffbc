import Headline.Proofs.Check
import Headline.Proofs.Document.Tree
import Headline.Proofs.Pattern.Code

/-!
# Headings judged without their code

The text of a heading has each span of code between single backticks, whatever marks the code
had in the document. So the pattern that takes out code (`Pattern.code`) takes out a span of code
exactly if the span is made of runs (`CodeRuns`), and if all of them are, the heading is judged by
its prose alone. Code that has backticks of its own may be left in part: in

    Foo ``a`b`` Bar

the pattern finds the code `a`, and the heading is judged by a text with `b` in it.
-/

namespace Headline

namespace Block

/-- The text of a heading without its code. -/
def proseText (heading : Block) : String :=
  String.join ((heading.children.filter (·.kind = .text)).map content)

def Unmarked (spans : List Block) : Prop :=
  ∀ s ∈ spans, s.kind = .text → tick ∉ s.content.toList

instance (spans : List Block) : Decidable (Unmarked spans) :=
  inferInstanceAs (Decidable (∀ s ∈ spans, s.kind = .text → tick ∉ s.content.toList))

variable {s : Block} {spans : List Block}

theorem toList_headingText (h : Block) :
    h.headingText.toList = h.children.flatMap (·.spanText.toList) := by
  rw [headingText, String.toList_join, List.flatMap_map]

theorem toList_proseText (h : Block) :
    h.proseText.toList =
      (h.children.filter (·.kind = .text)).flatMap (·.content.toList) := by
  rw [proseText, String.toList_join, List.flatMap_map]

theorem isSpan_cases (h : s.isSpan = true) : s.kind = .text ∨ s.kind = .inlineCode := by
  simpa [isSpan] using h

theorem spanText_text (h : s.kind = .text) : s.spanText = s.content := by
  rw [spanText, h, if_neg nofun]

theorem spanText_code (h : s.kind = .inlineCode) :
    s.spanText.toList = tick :: (s.content.toList ++ [tick]) := by
  rw [spanText, if_pos h, String.toList_append, String.toList_append]
  rfl

/-- Code made of runs goes from among spans, and their texts stay. -/
theorem codeCut_spans (hspans : ∀ s ∈ spans, s.isSpan = true) (hprose : Unmarked spans)
    (hcode : ∀ s ∈ spans, s.kind = .inlineCode → CodeRuns s.content.toList) :
    CodeCut (spans.flatMap (·.spanText.toList))
      ((spans.filter (·.kind = .text)).flatMap (·.content.toList)) := by
  induction spans with
  | nil => exact .nil
  | cons s spans ih =>
      obtain ⟨hs, hspans⟩ := List.forall_mem_cons.mp hspans
      obtain ⟨hunmarked, hprose⟩ := List.forall_mem_cons.mp hprose
      obtain ⟨hruns, hcode⟩ := List.forall_mem_cons.mp hcode
      have hrest := ih hspans hprose hcode
      rw [List.flatMap_cons]
      rcases isSpan_cases hs with hkind | hkind
      · rw [spanText_text hkind, List.filter_cons_of_pos (by simp [hkind]), List.flatMap_cons]
        exact hrest.append (hunmarked hkind)
      · rw [spanText_code hkind, List.filter_cons_of_neg (by simp [hkind]), List.cons_append,
          List.append_assoc]
        exact (hruns hkind).cut hrest

theorem flatMap_texts (htexts : ∀ s ∈ spans, s.kind = .text) (hprose : Unmarked spans) :
    ∃ text, tick ∉ text ∧ spans.flatMap (·.spanText.toList) = text
      ∧ (spans.filter (·.kind = .text)).flatMap (·.content.toList) = text := by
  refine ⟨spans.flatMap (·.content.toList), ?_, ?_, ?_⟩
  · rw [List.mem_flatMap]
    rintro ⟨s, hs, hmem⟩
    exact hprose s hs (htexts s hs) hmem
  · exact List.flatMap_congr fun s hs => by rw [spanText_text (htexts s hs)]
  · rw [List.filter_eq_self.mpr fun s hs => decide_eq_true (htexts s hs)]

theorem sole_code {h : Block} (hspans : ∀ s ∈ h.children, s.isSpan = true)
    (hprose : Unmarked h.children) (hsole : h.children.filter (·.kind = .inlineCode) = [s]) :
    ∃ before after, tick ∉ before ∧ tick ∉ after
      ∧ h.headingText.toList = before ++ tick :: (s.content.toList ++ tick :: after)
      ∧ h.proseText.toList = before ++ after := by
  obtain ⟨left, right, hchildren, hleft, hkind, hright⟩ := List.filter_eq_cons_iff.mp hsole
  rw [List.filter_eq_nil_iff] at hright
  have hcode : s.kind = .inlineCode := of_decide_eq_true hkind
  have htext : ∀ x ∈ h.children, ¬decide (x.kind = .inlineCode) = true → x.kind = .text :=
    fun x hx hnot => (isSpan_cases (hspans x hx)).resolve_right fun hx => hnot (decide_eq_true hx)
  rw [hchildren] at htext hprose
  obtain ⟨hbefore, hafter⟩ := List.forall_mem_append.mp htext
  obtain ⟨hproseBefore, hproseAfter⟩ := List.forall_mem_append.mp hprose
  obtain ⟨before, htick, hbefore, hbefore'⟩ :=
    flatMap_texts (fun x hx => hbefore x hx (hleft x hx)) hproseBefore
  obtain ⟨after, htick', hafter, hafter'⟩ :=
    flatMap_texts (fun x hx => hafter x (List.mem_cons_of_mem s hx) (hright x hx))
      fun x hx => hproseAfter x (List.mem_cons_of_mem s hx)
  refine ⟨before, after, htick, htick', ?_, ?_⟩
  · rw [toList_headingText, hchildren, List.flatMap_append, List.flatMap_cons, hbefore, hafter,
      spanText_code hcode, List.cons_append, List.append_assoc]
    rfl
  · rw [toList_proseText, hchildren, List.filter_append, List.flatMap_append,
      List.filter_cons_of_neg (by simp [hcode]), hbefore', hafter']

end Block

namespace Check

open Block

variable {o : RuleOptions} {h : Block}

theorem titleOf_of_codeCut {ds : List Char} (ho : o.patterns = [Pattern.code])
    (hcut : CodeCut h.headingText.toList ds) : titleOf o h = String.ofList ds := by
  rw [titleOf, RuleOptions.strip, ho, Pattern.stripAll]
  exact hcut.strip_eq

theorem titleOf_of_codeRuns (ho : o.patterns = [Pattern.code])
    (hspans : ∀ s ∈ h.children, s.isSpan = true) (hprose : Unmarked h.children)
    (hcode : ∀ s ∈ h.children, s.kind = .inlineCode → CodeRuns s.content.toList) :
    titleOf o h = h.proseText := by
  have hcut := codeCut_spans hspans hprose hcode
  rw [← toList_headingText, ← toList_proseText] at hcut
  rw [titleOf_of_codeCut ho hcut, String.ofList_toList]

/-- If all that goes is the only span of code, it is made of runs. -/
theorem codeRuns_of_titleOf {s : Block} (ho : o.patterns = [Pattern.code])
    (hspans : ∀ s ∈ h.children, s.isSpan = true) (hprose : Unmarked h.children)
    (hsole : h.children.filter (·.kind = .inlineCode) = [s])
    (htitle : titleOf o h = h.proseText) : CodeRuns s.content.toList := by
  obtain ⟨before, after, hbefore, hafter, hheading, hrest⟩ := sole_code hspans hprose hsole
  obtain ⟨ds, hds⟩ := exists_codeCut (tick :: (s.content.toList ++ tick :: after))
  have hcut := hds.append hbefore
  rw [← hheading] at hcut
  have hleft : before ++ ds = before ++ after := by
    rw [← hrest, ← htitle, titleOf_of_codeCut ho hcut, String.toList_ofList]
  obtain rfl := List.append_cancel_left hleft
  exact CodeRuns.of_cut hafter hds _ rfl

/-- A heading is checked for its title alone. -/
theorem heading_yields_of_titleOf {title : String} (htitle : titleOf o h = title) (index : Int)
    (l : Ledger) : (heading o h index l).Yields
      (if title ∈ l.titles ∨ rightForm o title = title then none
        else some (finding h index title (rightForm o title)), settle o l [title]) := by
  have hyields := heading_yields o h index l
  rw [verdict, htitle, ← ite_or] at hyields
  exact hyields

/-- **Headings are judged by their prose.** Let the pattern of code be all that is ignored, and let
the texts of a heading have no backtick of their own. If the code of the heading is made of runs,
its title is its prose, and what is found wrong with it and what the ledger learns come from the
prose alone. If there is one span of code, its title is its prose in no other case. -/
theorem heading_without_code {h : Block} {ts : List Token}
    (hspans : h.children = Block.spans h.line ts) (hprose : Unmarked h.children) :
    ∃ p, (∀ characters, Pattern.compile characters "`[^`]+`" = .ok p) ∧
      ∀ o : RuleOptions, o.patterns = [p] →
      ((∀ s ∈ h.children, s.kind = .inlineCode → CodeRuns s.content.toList) →
        titleOf o h = h.proseText ∧
        ∀ index l, (heading o h index l).Yields
          (if h.proseText ∈ l.titles ∨ rightForm o h.proseText = h.proseText then none
            else some (finding h index h.proseText (rightForm o h.proseText)),
          settle o l [h.proseText])) ∧
      ∀ s, h.children.filter (·.kind = .inlineCode) = [s] →
        (titleOf o h = h.proseText ↔ CodeRuns s.content.toList) := by
  have hall : ∀ s ∈ h.children, s.isSpan = true := by
    intro s hs
    rw [hspans] at hs
    exact (Tree.spans_childless h.line ts s hs).1
  refine ⟨Pattern.code, Pattern.compile_code, fun o ho => ⟨fun hcode => ?_, fun s hsole => ?_⟩⟩
  · have htitle := titleOf_of_codeRuns ho hall hprose hcode
    exact ⟨htitle, heading_yields_of_titleOf htitle⟩
  · refine ⟨codeRuns_of_titleOf ho hall hprose hsole, fun hruns => ?_⟩
    refine titleOf_of_codeRuns ho hall hprose fun x hx hkind => ?_
    have hmem : x ∈ h.children.filter (·.kind = .inlineCode) :=
      List.mem_filter.mpr ⟨hx, decide_eq_true hkind⟩
    rw [hsole, List.mem_singleton] at hmem
    rwa [hmem]

/-- The heading `Foo … Bar` with a span of code in its middle. -/
def fooBar (mark code : String) : Block :=
  ⟨.heading, "Foo " ++ code ++ " Bar", "# Foo " ++ mark ++ code ++ mark ++ " Bar", 1, 1, none,
    Block.spans 1 [.text "Foo ", ⟨"code_inline", 0, "", none, code, mark, []⟩, .text " Bar"]⟩

theorem heading_without_code_doubled :
    Unmarked (fooBar "`" "a``b").children ∧ CodeRuns "a``b".toList ∧
      ∃ p, (∀ characters, Pattern.compile characters "`[^`]+`" = .ok p) ∧
        ∀ o : RuleOptions, o.patterns = [p] → titleOf o (fooBar "`" "a``b") = "Foo  Bar" := by
  have hprose : Unmarked (fooBar "`" "a``b").children := by decide
  have hruns : CodeRuns "a``b".toList := by
    have hsplit : "a``b".toList = ['a'] ++ tick :: tick :: ['b'] := by decide
    rw [hsplit]
    exact .more (by decide) (by decide) (.run (by decide) (by decide))
  obtain ⟨p, hp, hchecks⟩ := heading_without_code (h := fooBar "`" "a``b") rfl hprose
  refine ⟨hprose, hruns, p, hp, fun o ho => ?_⟩
  have htext : (fooBar "`" "a``b").proseText = "Foo  Bar" := by decide
  rw [← htext]
  exact ((hchecks o ho).2 _ rfl).mpr hruns

/-- Of code with a single backtick in it, the first part goes and the second is judged. -/
theorem code_left_behind :
    Unmarked (fooBar "``" "a`b").children
      ∧ (∀ s ∈ (fooBar "``" "a`b").children, s.kind = .inlineCode → s.content ≠ "")
      ∧ ∃ p, (∀ characters, Pattern.compile characters "`[^`]+`" = .ok p) ∧
        ∀ o : RuleOptions, o.patterns = [p] → titleOf o (fooBar "``" "a`b") = "Foo b` Bar"
          ∧ titleOf o (fooBar "``" "a`b") ≠ (fooBar "``" "a`b").proseText := by
  refine ⟨by decide, by decide, Pattern.code, Pattern.compile_code, fun o ho => ?_⟩
  have hleft : Pattern.code.strip (fooBar "``" "a`b").headingText = "Foo b` Bar" := by
    decide +kernel
  have htitle : titleOf o (fooBar "``" "a`b") = "Foo b` Bar" := by
    rw [titleOf, RuleOptions.strip, ho]
    exact hleft
  refine ⟨htitle, ?_⟩
  rw [htitle]
  decide

end Check

end Headline

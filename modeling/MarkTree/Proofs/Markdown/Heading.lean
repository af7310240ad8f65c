import MarkTree.Proofs.Markdown.NormalTree
import MarkTree.Proofs.Source.HeadingLine

namespace MarkTree.Markdown

open Node Source

/-- A heading with a title and an attribute list, as it is made from its text. -/
def titled (tag title : String) (body : List Char) : Node :=
  .plain tag ((AttributeList.read body).attributes.map fun (name, value) => (name, .str value))
    (if title = "" then [] else [.text (.str title)])

/-- A heading with a list at its end is made from the title and the list. -/
theorem ofHeading_eq_titled {raw title : String} {before body : List Char}
    (hlist : trailingList? raw.toList = some (before, body))
    (htitle : Text.stripRight before = title.toList) (tag : String) :
    ofHeading tag [.text (.str raw)] = titled tag title body := by
  by_cases hnone : title = ""
  · simp [ofHeading, hlist, htitle, titled, hnone]
  · simp [ofHeading, hlist, htitle, titled, hnone]

/-- Without an attribute list a heading is made from its whole text. -/
theorem ofHeading_eq_plain {raw : String} (hlist : trailingList? raw.toList = none) (tag : String) :
    ofHeading tag [.text (.str raw)] = .plain tag [] [.text (.str raw)] := by
  simp [ofHeading, hlist]

section Heading

variable {heading text : Entries} {raw : String} (hheading : typeOf heading = .str "heading")
  (hchild : fieldOr "children" (.list []) heading = .list [.dict text])
  (htext : typeOf text = .str "text") (hraw : rawOf text = .str raw)
include hheading hchild htext hraw

theorem readBlock_heading_text :
    readBlock heading = .heading (detailOr "level" (.int 1) heading) [.text (.str raw)] := by
  have hinline : readInline text = .text (.str raw) := by
    rw [readInline, htext, hraw]
    rfl
  have hbelow : fieldOr "children" (.list []) heading = .list ([text].map .dict) := hchild
  rw [readBlock_heading hheading, readInlines_nestedInList hbelow, List.map_singleton, hinline]

theorem readable_heading_text (hlevel : ∀ flag, detailOr "level" (.int 1) heading ≠ .bool flag) :
    Readable heading :=
  .of_block (readBlock_heading_text hheading hchild htext hraw) rfl (throughout_heading hlevel _)

section Level

variable {level : Int} (hlevel : detailOr "level" (.int 1) heading = .int level)
  (hrange : 1 ≤ level ∧ level ≤ 6)
include hlevel hrange

theorem toNodes_heading :
    (readBlock heading).toNodes = [ofHeading ("h" ++ toString level) [.text (.str raw)]] := by
  have hinline : Inline.toNodes [.text (.str raw)] = [.text (.str raw)] := rfl
  have htag : Block.headingTag (.int level) = "h" ++ toString level := by
    simp only [Block.headingTag, Datum.int?, hrange, decide_true, Bool.and_self, ↓reduceIte]
    rfl
  rw [readBlock_heading_text hheading hchild htext hraw, Block.toNodes, hlevel, htag, hinline]

/-- A heading is made from what is in front of its attribute list and from the list. -/
theorem toNodes_heading_text {title : String} {before body : List Char}
    (hlist : trailingList? raw.toList = some (before, body))
    (htitle : Text.stripRight before = title.toList) :
    (readBlock heading).toNodes = [titled ("h" ++ toString level) title body] := by
  rw [toNodes_heading hheading hchild htext hraw hlevel hrange, ofHeading_eq_titled hlist htitle]

end Level

end Heading

/-- The tree of a heading and the check of its line agree on the attribute list at the end. Either neither
    finds one, and the heading keeps its text and nothing is reported; or the leftmost one in the text, which
    takes the blanks in front of it along, is the one with the least skipped in the line. Then the heading
    has the attributes of the list, and the words that are no attributes are reported. -/
theorem treeOf_heading_lint {heading text : Entries} {content : String} {level : Nat}
    (hheading : typeOf heading = .str "heading")
    (hlevel : detailOr "level" (.int 1) heading = .int level) (hrange : 1 ≤ level ∧ level ≤ 6)
    (hchild : fieldOr "children" (.list []) heading = .list [.dict text])
    (htext : typeOf text = .str "text") (hraw : rawOf text = .str content)
    (hbreak : ∀ c ∈ content.toList, Text.isLineBreak c = false) (hbacktick : backtick ∉ content.toList)
    (hcomment : ¬ commentOpener <:+: content.toList) (start : Int) (math : Bool) :
    ∃ element, treeOf [heading] = .ok [element] ∧
      (((∀ title body, ¬ HasSpacedList content.toList title body) ∧
          (∀ skipped body, ¬ HasHeadingList (headingLine level content).toList skipped body) ∧
          element = .plain ("h" ++ toString level) [] [.text (.str content)] ∧
          lint (headingLine level content) (.int start) math = .ok []) ∨
        ∃ (title : String) (skipped body : List Char),
          IsFirst (HasSpacedList content.toList) title.toList body ∧
            IsFirst (HasHeadingList (headingLine level content).toList) skipped body ∧
            element = titled ("h" ++ toString level) title body ∧
            lint (headingLine level content) (.int start) math = .ok (listReport start body)) := by
  have hreadable := readable_heading_text hheading hchild htext hraw (by simp [hlevel])
  have htree := treeOf_eq_ok (List.forall_mem_singleton.mpr hreadable.trace)
  have hnodes := toNodes_heading hheading hchild htext hraw hlevel (by omega)
  have hline := isHeadingLine_headingLine hrange content
  have hlint := lint_headingLine hrange hbreak hbacktick hcomment start math
  have hsame := hasHeadingList_iff hline
  rw [documentOf_cons, hnodes] at htree
  refine ⟨_, htree, ?_⟩
  cases hlist : trailingList? content.toList with
  | none =>
    have hnone := trailingList?_eq_none_iff.mp hlist
    rw [hlist] at hlint
    refine .inl ⟨not_hasSpacedList hnone, fun skipped body h => ?_, ofHeading_eq_plain hlist _, hlint⟩
    exact hnone skipped body ((hsame skipped body).mpr h)
  | some found =>
    obtain ⟨before, body⟩ := found
    have hfirst := isFirst_of_trailingList? hlist
    have htitle : Text.stripRight before = (String.ofList (Text.stripRight before)).toList := by simp
    rw [hlist] at hlint
    refine .inr ⟨String.ofList (Text.stripRight before), before, body, ?_, hfirst.congr hsame, ?_, hlint⟩
    · rw [← htitle]
      exact hfirst.spaced
    · exact ofHeading_eq_titled hlist htitle _

namespace Sample

/-- Braces around other text, and a list with an opening brace in it. -/
def braces : String :=
  "\x7b:a\x7d \x7b:.x \x7b: #y\x7d "

end Sample

open Sample in
/-- The first opening brace starts no list, and the last one is a word of the list before it. -/
theorem treeOf_heading_lint_braces :
    treeOf [heading 2 braces] =
        .ok [.plain "h2" [("class", .str "x"), ("id", .str "y")] [.text (.str "\x7b:a\x7d")]] ∧
      lint (headingLine 2 braces) (.int 4) true =
        .ok [{ severity := "warning", line := .int 4
               message := "Illegal attributes ['\x7b:'] ignored in IAL" }] := by
  have hraw : braces.toList =
      ['\x7b', ':', 'a', '\x7d', ' ', '\x7b', ':', '.', 'x', ' ', '\x7b', ':', ' ', '#', 'y', '\x7d',
        ' '] := by
    simp [braces]
  have hfound : trailingList? braces.toList =
      some (['\x7b', ':', 'a', '\x7d', ' '], ['.', 'x', ' ', '\x7b', ':', ' ', '#', 'y']) := by
    rw [hraw]
    decide
  have htitle : Text.stripRight ['\x7b', ':', 'a', '\x7d', ' '] = "\x7b:a\x7d".toList := by decide
  have hlist : AttributeList.read ['.', 'x', ' ', '\x7b', ':', ' ', '#', 'y'] =
      { attributes := [("class", "x"), ("id", "y")], illegal := ["\x7b:"] } := by decide +kernel
  have hbreak : ∀ c ∈ braces.toList, Text.isLineBreak c = false := by
    simp [hraw, Text.isLineBreak]
  have hbacktick : backtick ∉ braces.toList := by
    rw [hraw]
    decide
  have hcomment : ¬ commentOpener <:+: braces.toList := by
    rw [hraw]
    decide
  have hleftmost := (isFirst_of_trailingList? hfound).spaced
  rw [htitle] at hleftmost
  obtain ⟨element, htree, ⟨hnone, -⟩ | ⟨title, skipped, body, hfirst, -, rfl, hlint⟩⟩ :=
    @treeOf_heading_lint (heading 2 braces) _ braces 2 rfl rfl (by decide) rfl rfl rfl hbreak hbacktick
      hcomment 4 true
  · exact absurd hleftmost.allowed (hnone _ _)
  · obtain ⟨hfront, rfl⟩ := hfirst.unique_spaced hleftmost
    obtain rfl := String.toList_injective hfront
    rw [htree, hlint, titled, listReport, hlist]
    exact ⟨rfl, rfl⟩

end MarkTree.Markdown

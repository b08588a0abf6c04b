import LogPipeline.Text.Category
import LogPipeline.Text.CharSet

/-!
# General categories of regular expressions

Regular expressions follow edition 16.0 of the character standard.  Their categories are those of
the newer edition without the characters it added, which have no category yet.
-/

namespace LogPipeline.Regex.Property

open Text (CharSet Category)

/-- The characters that the edition after 16.0 added. -/
def newerCharacters : CharSet := .ofText
    "88f c5c cdc 1acf-1add 1ae0-1aeb 20c1 2b96 a7ce-a7cf a7d2 a7d4 a7f1 fbc3-fbd2 fd90-fd91
     fdc8-fdce 10940-10959 10ec5-10ec7 10ed0-10ed8 10efa-10efb 11b60-11b67 11db0-11ddb
     11de0-11de9 16ea0-16eb8 16ebb-16ed3 16ff2-16ff6 187f8-187ff 18d09-18d1e 18d80-18df2
     1ccfa-1ccfc 1ceba-1ced0 1cee0-1cef0 1e6c0-1e6de 1e6e0-1e6f5 1e6fe-1e6ff 1f6d8 1f777-1f77a
     1f8d0-1f8d8 1fa54-1fa57 1fa8a 1fa8e 1fac8 1facd 1faea 1faef 1fbfa 2b73a-2b73f 2cea2-2cead
     323b0-33479"

/-- The characters whose category the newer edition changed, with the category in 16.0. -/
def formerCategories : List (CharSet × Category) := [
  (.range 0x295 0x295, .ll)]

/-- The ranges of the rows of some categories; each row ends where the next begins. -/
def rangesOfRows (members : List Category) : List (Nat × Category) → List (Nat × Nat)
  | [] => []
  | [row] => if members.contains row.2 then [(row.1, CharSet.lastCode)] else []
  | row :: next :: rest =>
      if members.contains row.2 then (row.1, next.1 - 1) :: rangesOfRows members (next :: rest)
      else rangesOfRows members (next :: rest)

/-- The characters of some general categories. -/
def ofCategories (members : List Category) : CharSet :=
  let current := CharSet.ofSorted (rangesOfRows members Text.categoryRows.toList)
  let known :=
    if members.contains .cn then current.union newerCharacters
    else current.difference newerCharacters
  formerCategories.foldl
    (fun set former =>
      if members.contains former.2 then set.union former.1 else set.difference former.1)
    known

/-- The general categories under a name, which is in lower case and without separators. -/
def categoriesNamed? (name : String) : Option (List Category) :=
  match name with
  | "l" | "letter" => some [.lu, .ll, .lt, .lm, .lo]
  | "lc" | "casedletter" => some [.lu, .ll, .lt]
  | "lu" | "uppercaseletter" => some [.lu]
  | "ll" | "lowercaseletter" => some [.ll]
  | "lt" | "titlecaseletter" => some [.lt]
  | "lm" | "modifierletter" => some [.lm]
  | "lo" | "otherletter" => some [.lo]
  | "m" | "mark" | "combiningmark" => some [.mn, .mc, .me]
  | "mn" | "nonspacingmark" => some [.mn]
  | "mc" | "spacingmark" => some [.mc]
  | "me" | "enclosingmark" => some [.me]
  | "n" | "number" => some [.nd, .nl, .no]
  | "nd" | "decimalnumber" | "digit" => some [.nd]
  | "nl" | "letternumber" => some [.nl]
  | "no" | "othernumber" => some [.no]
  | "p" | "punctuation" | "punct" => some [.pc, .pd, .ps, .pe, .pi, .pf, .po]
  | "pc" | "connectorpunctuation" => some [.pc]
  | "pd" | "dashpunctuation" => some [.pd]
  | "ps" | "openpunctuation" => some [.ps]
  | "pe" | "closepunctuation" => some [.pe]
  | "pi" | "initialpunctuation" => some [.pi]
  | "pf" | "finalpunctuation" => some [.pf]
  | "po" | "otherpunctuation" => some [.po]
  | "s" | "symbol" => some [.sm, .sc, .sk, .so]
  | "sm" | "mathsymbol" => some [.sm]
  | "sc" | "currencysymbol" => some [.sc]
  | "sk" | "modifiersymbol" => some [.sk]
  | "so" | "othersymbol" => some [.so]
  | "z" | "separator" => some [.zs, .zl, .zp]
  | "zs" | "spaceseparator" => some [.zs]
  | "zl" | "lineseparator" => some [.zl]
  | "zp" | "paragraphseparator" => some [.zp]
  | "c" | "other" => some [.cc, .cf, .co, .cn]
  | "cc" | "control" | "cntrl" => some [.cc]
  | "cf" | "format" => some [.cf]
  | "co" | "privateuse" => some [.co]
  | "cn" | "unassigned" => some [.cn]
  | _ => none

end LogPipeline.Regex.Property

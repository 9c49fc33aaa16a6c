import Gateway.Unicode.Ranges
import Gateway.Unicode.CategoryRuns

/-! # General categories -/
namespace Gateway.Unicode

inductive Category
  | lu | ll | lt | lm | lo | mn | mc | me | nd | nl | no | pc | pd | ps | pe | pi | pf | po
  | sm | sc | sk | so | zs | zl | zp | cc | cf | cs | co | cn
  deriving DecidableEq, Repr

namespace Category

def ofCode : String → Category
  | "Lu" => .lu | "Ll" => .ll | "Lt" => .lt | "Lm" => .lm | "Lo" => .lo
  | "Mn" => .mn | "Mc" => .mc | "Me" => .me
  | "Nd" => .nd | "Nl" => .nl | "No" => .no
  | "Pc" => .pc | "Pd" => .pd | "Ps" => .ps | "Pe" => .pe | "Pi" => .pi | "Pf" => .pf | "Po" => .po
  | "Sm" => .sm | "Sc" => .sc | "Sk" => .sk | "So" => .so
  | "Zs" => .zs | "Zl" => .zl | "Zp" => .zp
  | "Cc" => .cc | "Cf" => .cf | "Cs" => .cs | "Co" => .co
  | _ => .cn

def table : List (Nat × Category) :=
  (codedRuns 2 0 [] (categoryRuns.flatMap String.toList)).map fun (n, code) => (n, ofCode code)

def ofCodePoint (n : Nat) : Category := (codeAt table n).getD .cn

def of (c : Char) : Category := ofCodePoint c.toNat

def letters : List Category := [.lu, .ll, .lt, .lm, .lo]

def marks : List Category := [.mn, .mc, .me]

def numerals : List Category := [.nd, .nl, .no]

def punctuation : List Category := [.pc, .pd, .ps, .pe, .pi, .pf, .po]

def symbols : List Category := [.sm, .sc, .sk, .so]

def separators : List Category := [.zs, .zl, .zp]

/-- The categories that a name, in small letters without separators, stands for. -/
def named? : String → Option (List Category)
  | "lu" | "uppercaseletter" => some [.lu]
  | "ll" | "lowercaseletter" => some [.ll]
  | "lt" | "titlecaseletter" => some [.lt]
  | "lc" | "casedletter" => some [.lu, .ll, .lt]
  | "lm" | "modifierletter" => some [.lm]
  | "lo" | "otherletter" => some [.lo]
  | "l" | "letter" => some letters
  | "mn" | "nonspacingmark" => some [.mn]
  | "mc" | "spacingmark" => some [.mc]
  | "me" | "enclosingmark" => some [.me]
  | "m" | "mark" | "combiningmark" => some marks
  | "nd" | "decimalnumber" | "digit" => some [.nd]
  | "nl" | "letternumber" => some [.nl]
  | "no" | "othernumber" => some [.no]
  | "n" | "number" => some numerals
  | "pc" | "connectorpunctuation" => some [.pc]
  | "pd" | "dashpunctuation" => some [.pd]
  | "ps" | "openpunctuation" => some [.ps]
  | "pe" | "closepunctuation" => some [.pe]
  | "pi" | "initialpunctuation" => some [.pi]
  | "pf" | "finalpunctuation" => some [.pf]
  | "po" | "otherpunctuation" => some [.po]
  | "p" | "punctuation" | "punct" => some punctuation
  | "sm" | "mathsymbol" => some [.sm]
  | "sc" | "currencysymbol" => some [.sc]
  | "sk" | "modifiersymbol" => some [.sk]
  | "so" | "othersymbol" => some [.so]
  | "s" | "symbol" => some symbols
  | "zs" | "spaceseparator" => some [.zs]
  | "zl" | "lineseparator" => some [.zl]
  | "zp" | "paragraphseparator" => some [.zp]
  | "z" | "separator" => some separators
  | "cc" | "control" | "cntrl" => some [.cc]
  | "cf" | "format" => some [.cf]
  | "cs" | "surrogate" => some [.cs]
  | "co" | "privateuse" => some [.co]
  | "cn" | "unassigned" => some [.cn]
  | "c" | "other" => some [.cc, .cf, .cs, .co, .cn]
  | _ => none

def isMark (c : Char) : Bool := marks.contains (of c)

end Category
end Gateway.Unicode

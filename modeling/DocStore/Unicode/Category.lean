import DocStore.Unicode.Runs
import DocStore.Unicode.CategoryTable
/-!
General categories of characters, their names, and the groups of categories that have a name of
their own.
-/
namespace DocStore.Unicode

inductive Category where
  | Lu | Ll | Lt | Lm | Lo
  | Mn | Mc | Me
  | Nd | Nl | No
  | Pc | Pd | Ps | Pe | Pi | Pf | Po
  | Sm | Sc | Sk | So
  | Zs | Zl | Zp
  | Cc | Cf | Cs | Co | Cn
deriving DecidableEq, Repr, Inhabited

namespace Category

/-- Each category with its names in lower case, the abbreviation first. -/
def names : List (Category × List String) := [
  (Lu, ["lu", "uppercaseletter"]), (Ll, ["ll", "lowercaseletter"]),
  (Lt, ["lt", "titlecaseletter"]), (Lm, ["lm", "modifierletter"]), (Lo, ["lo", "otherletter"]),
  (Mn, ["mn", "nonspacingmark"]), (Mc, ["mc", "spacingmark"]), (Me, ["me", "enclosingmark"]),
  (Nd, ["nd", "decimalnumber", "digit"]), (Nl, ["nl", "letternumber"]),
  (No, ["no", "othernumber"]),
  (Pc, ["pc", "connectorpunctuation"]), (Pd, ["pd", "dashpunctuation"]),
  (Ps, ["ps", "openpunctuation"]), (Pe, ["pe", "closepunctuation"]),
  (Pi, ["pi", "initialpunctuation"]), (Pf, ["pf", "finalpunctuation"]),
  (Po, ["po", "otherpunctuation"]),
  (Sm, ["sm", "mathsymbol"]), (Sc, ["sc", "currencysymbol"]), (Sk, ["sk", "modifiersymbol"]),
  (So, ["so", "othersymbol"]),
  (Zs, ["zs", "spaceseparator"]), (Zl, ["zl", "lineseparator"]),
  (Zp, ["zp", "paragraphseparator"]),
  (Cc, ["cc", "control", "cntrl"]), (Cf, ["cf", "format"]), (Cs, ["cs", "surrogate"]),
  (Co, ["co", "privateuse"]), (Cn, ["cn", "unassigned"])]

def groups : List (List String × List Category) := [
  (["lc", "casedletter"], [Lu, Ll, Lt]),
  (["l", "letter"], [Lu, Ll, Lt, Lm, Lo]),
  (["m", "mark", "combiningmark"], [Mn, Mc, Me]),
  (["n", "number"], [Nd, Nl, No]),
  (["p", "punctuation", "punct"], [Pc, Pd, Ps, Pe, Pi, Pf, Po]),
  (["s", "symbol"], [Sm, Sc, Sk, So]),
  (["z", "separator"], [Zs, Zl, Zp]),
  (["c", "other"], [Cc, Cf, Cs, Co, Cn])]

/-- The categories meant by a name in lower case without separators. -/
def named? (name : String) : Option (List Category) :=
  match names.find? fun (_, texts) => texts.contains name with
  | some (category, _) => some [category]
  | none => (groups.find? fun (texts, _) => texts.contains name).map Prod.snd

def ofAbbreviation (name : String) : Category :=
  match names.find? fun (_, texts) => texts.head? == some (String.ofList (name.toList.map Char.toLower)) with
  | some (category, _) => category
  | none => Cn

def table : RunTable Category := .ofText categoryRuns ofAbbreviation

end Category

def category (c : Char) : Category := (Category.table.find? c.toNat).getD .Cn

end DocStore.Unicode

import TypedRows.Layout.Basic
import TypedRows.Text.LetterCase

namespace TypedRows.Layout.Python

open Text

def mentions (token : String) (f : FieldModel) : Bool :=
  f.typeToken = token || f.typeToken = "Optional[" ++ token ++ "]"

def uses (m : TableModel) (token : String) : Bool :=
  m.fields.any (mentions token)

def importLines (m : TableModel) : Lines :=
  let temporal := ["date", "datetime"].filter (uses m)
  (if temporal.isEmpty then [] else ["from datetime import " ++ commaSeparated temporal]) ++
    (if uses m "Decimal" then ["from decimal import Decimal"] else []) ++
    [if m.fields.any (·.nullable) then "from typing import ClassVar, Optional, Tuple"
      else "from typing import ClassVar, Tuple"]

-- A tuple of one item needs a comma after it.
def tuple (items : List String) : String :=
  match items with
  | [item] => "(" ++ item ++ ",)"
  | items => "(" ++ commaSeparated items ++ ")"

def statementLines (m : TableModel) : Lines :=
  m.statements.named.map fun (name, sql) =>
    "    " ++ upper name ++ ": ClassVar[str] = " ++ Language.python.stringLiteral sql

def fieldLines (m : TableModel) : Lines :=
  m.fields.map fun f => "    " ++ f.name ++ ": " ++ f.typeToken ++ "  # " ++ f.annotation.render

def unit (m : TableModel) : Lines :=
  ["# Generated by schema_codegen from the " ++ commentName m ++ " table. Do not edit.",
    "from __future__ import annotations", "",
    "from dataclasses import dataclass"] ++
  importLines m ++
  ["", "", "@dataclass",
    "class " ++ m.typeName ++ ":",
    "    \"\"\"Row of the " ++ commentName m ++ " table.\"\"\"", "",
    "    TABLE: ClassVar[str] = " ++ Language.python.stringLiteral m.table,
    "    PRIMARY_KEY: ClassVar[Tuple[str, ...]] = " ++ tuple (keyLiterals .python m)] ++
  statementLines m ++
  [""] ++
  fieldLines m

def index (entries : List Entry) : Lines :=
  ["# Generated by schema_codegen. Do not edit."] ++
  entries.map (fun e => "from ." ++ e.stem ++ " import " ++ e.typeName) ++
  ["", "__all__ = [" ++
    commaSeparated (entries.map fun e => Language.python.stringLiteral e.typeName) ++ "]"]

end TypedRows.Layout.Python

import TypedRows.Layout.Basic

namespace TypedRows.Layout.Go

open Text

def package : String :=
  "models"

def isQualifiedBy (name : String) (token : String) : Bool :=
  (name ++ ".").toList.isPrefixOf token.toList

def imports (m : TableModel) : List String :=
  (if m.fields.any fun f => isQualifiedBy "sql" f.typeToken then ["database/sql"] else []) ++
    (if m.fields.any fun f => isQualifiedBy "time" f.typeToken then ["time"] else [])

def importLines (paths : List String) : Lines :=
  match paths with
  | [] => []
  | [path] => ["import \"" ++ path ++ "\"", ""]
  | paths => ["import ("] ++ paths.map (fun path => "\t\"" ++ path ++ "\"") ++ [")", ""]

-- A raw string cannot hold a backquote, so a tag with one is written as a plain literal.
def tag (column : String) : String :=
  let tag := "db:\"" ++ Escape.quoted column ++ "\""
  if tag.toList.contains '\x60' then Language.go.stringLiteral tag
  else "\x60" ++ tag ++ "\x60"

def fieldLine (nameWidth typeWidth tagWidth : Nat) (f : FieldModel) : String :=
  "\t" ++ padRight nameWidth f.name ++ " " ++ padRight typeWidth f.typeToken ++ " " ++
    padRight tagWidth (tag f.column) ++ " // " ++ f.annotation.render

def fieldLines (m : TableModel) : Lines :=
  m.fields.map (fieldLine (widest (m.fields.map (·.name))) (widest (m.fields.map (·.typeToken)))
    (widest (m.fields.map fun f => tag f.column)))

def constants (m : TableModel) : List (String × String) :=
  m.statements.named.map fun (name, sql) => (m.typeName ++ Casing.pascal.apply name, sql)

def constantLines (m : TableModel) : Lines :=
  let width := widest ((constants m).map (·.1))
  (constants m).map fun (name, sql) =>
    "\t" ++ padRight width name ++ " = " ++ Language.go.stringLiteral sql

def heading : String :=
  "// Code generated by schema_codegen. DO NOT EDIT."

def unit (m : TableModel) : Lines :=
  [heading, "", "package " ++ package, ""] ++
  importLines (imports m) ++
  ["// " ++ m.typeName ++ " maps rows of the " ++ commentName m ++ " table.",
    "type " ++ m.typeName ++ " struct \x7b"] ++
  fieldLines m ++
  ["\x7d", "",
    "// " ++ m.typeName ++ "Table is the name of the source table.",
    "const " ++ m.typeName ++ "Table = " ++ Language.go.stringLiteral m.table, "",
    "// SQL statements for the " ++ commentName m ++ " table.",
    "const ("] ++
  constantLines m ++
  [")", "",
    "// " ++ m.typeName ++ "PrimaryKey lists the primary key columns.",
    "var " ++ m.typeName ++ "PrimaryKey = []string\x7b" ++
      commaSeparated (keyLiterals .go m) ++ "\x7d"]

def index (entries : List Entry) : Lines :=
  [heading, "",
    "// Package " ++ package ++ " holds generated table models.",
    "//",
    "// Types: " ++ commaSeparated (entries.map (·.typeName)),
    "package " ++ package]

end TypedRows.Layout.Go

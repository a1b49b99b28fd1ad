import TypedRows.Layout.Basic

namespace TypedRows.Layout.TypeScript

def fieldLines (m : TableModel) : Lines :=
  m.fields.flatMap fun f =>
    ["  /** " ++ f.annotation.render ++ " */", "  " ++ f.name ++ ": " ++ f.typeToken ++ ";"]

def statementLines (m : TableModel) : Lines :=
  m.statements.named.map fun (name, sql) =>
    "  " ++ Casing.camel.apply name ++ ": " ++ Language.typescript.stringLiteral sql ++ ","

def unit (m : TableModel) : Lines :=
  ["// Generated by schema_codegen from the " ++ commentName m ++ " table. Do not edit.", "",
    "/** Row of the " ++ commentName m ++ " table. */",
    "export interface " ++ m.typeName ++ " \x7b"] ++
  fieldLines m ++
  ["\x7d", "",
    "export const " ++ m.typeName ++ "Table = " ++ Language.typescript.stringLiteral m.table ++ ";",
    "",
    "export const " ++ m.typeName ++ "PrimaryKey = [" ++
      commaSeparated (keyLiterals .typescript m) ++ "] as const;", "",
    "export const " ++ m.typeName ++ "Sql = \x7b"] ++
  statementLines m ++
  ["\x7d as const;"]

def index (entries : List Entry) : Lines :=
  ["// Generated by schema_codegen. Do not edit.", ""] ++
  entries.map fun e => "export * from \"./" ++ e.stem ++ "\";"

end TypedRows.Layout.TypeScript

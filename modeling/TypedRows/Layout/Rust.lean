import TypedRows.Layout.Basic
import TypedRows.Text.LetterCase

namespace TypedRows.Layout.Rust

open Text

def fieldLines (m : TableModel) : Lines :=
  m.fields.flatMap fun f =>
    ["    /// " ++ f.annotation.render, "    pub " ++ f.name ++ ": " ++ f.typeToken ++ ","]

def statementLines (m : TableModel) : Lines :=
  m.statements.named.map fun (name, sql) =>
    "    pub const " ++ upper name ++ ": &'static str = " ++ Language.rust.stringLiteral sql ++ ";"

def unit (m : TableModel) : Lines :=
  ["//! Generated by schema_codegen from the \x60" ++ commentName m ++ "\x60 table. Do not edit.",
    "",
    "/// Row of the \x60" ++ commentName m ++ "\x60 table.",
    "#[derive(Debug, Clone, PartialEq)]",
    "pub struct " ++ m.typeName ++ " \x7b"] ++
  fieldLines m ++
  ["\x7d", "",
    "impl " ++ m.typeName ++ " \x7b",
    "    pub const TABLE: &'static str = " ++ Language.rust.stringLiteral m.table ++ ";",
    "    pub const PRIMARY_KEY: &'static [&'static str] = &[" ++
      commaSeparated (keyLiterals .rust m) ++ "];"] ++
  statementLines m ++
  ["\x7d"]

def moduleName (e : Entry) : String :=
  Language.rust.escapeKeyword e.stem

def index (entries : List Entry) : Lines :=
  ["//! Generated by schema_codegen. Do not edit.", ""] ++
  entries.map (fun e => "pub mod " ++ moduleName e ++ ";") ++
  [""] ++
  entries.map fun e => "pub use " ++ moduleName e ++ "::" ++ e.typeName ++ ";"

end TypedRows.Layout.Rust

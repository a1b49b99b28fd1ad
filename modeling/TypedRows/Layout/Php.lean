import TypedRows.Layout.Basic
import TypedRows.Text.LetterCase

namespace TypedRows.Layout.Php

open Text

def opening : Lines :=
  ["<?php", "", "declare(strict_types=1);", ""]

def statementLines (m : TableModel) : Lines :=
  m.statements.named.map fun (name, sql) =>
    "    public const " ++ upper name ++ " = " ++ Language.php.stringLiteral sql ++ ";"

def fieldLines (m : TableModel) : Lines :=
  m.fields.flatMap fun f =>
    ["", "    /** " ++ f.annotation.render ++ " */",
      "    public " ++ f.typeToken ++ " $" ++ f.name ++ (if f.nullable then " = null;" else ";")]

def unit (m : TableModel) : Lines :=
  opening ++
  ["// Generated by schema_codegen from the " ++ commentName m ++ " table. Do not edit.", "",
    "namespace Models;", "",
    "/**",
    " * Row of the " ++ commentName m ++ " table.",
    " */",
    "final class " ++ m.typeName,
    "\x7b",
    "    public const TABLE = " ++ Language.php.stringLiteral m.table ++ ";",
    "    public const PRIMARY_KEY = [" ++ commaSeparated (keyLiterals .php m) ++ "];"] ++
  statementLines m ++
  fieldLines m ++
  ["\x7d"]

def index (entries : List Entry) : Lines :=
  opening ++
  ["// Generated by schema_codegen. Do not edit.", ""] ++
  entries.map fun e =>
    "require_once __DIR__ . " ++ Language.php.stringLiteral ("/" ++ e.fileName) ++ ";"

end TypedRows.Layout.Php

import RequestBinding.Function.Body
import RequestBinding.Text.Blank

/-!
# Bindings modules

A bindings module is a header that names its target, the two functions of each record in order with
a blank line before each, and the helpers that the functions call.
-/

namespace RequestBinding.BindingsModule

/-- The lines before the functions. -/
def headerLines (target : String) : List String := [
  "// Code generated by tagwrangler-gen. DO NOT EDIT.",
  "",
  "//! Request binding and validation for `" ++ target ++ "`.",
  "",
  "#![allow(dead_code, unused_variables)]",
  "",
  "use std::collections::HashMap;",
  "",
  "use http::Request;",
  "",
  "use super::*;"]

/-- The lines after the functions: a blank line, then the helpers. -/
def helperLines : List String := [
  "",
  "fn header_value<B>(req: &Request<B>, key: &str) -> String \x7b",
  "    req.headers()",
  "        .get(key)",
  "        .and_then(|v| v.to_str().ok())",
  "        .unwrap_or_default()",
  "        .to_string()",
  "\x7d",
  "",
  "fn query_value<B>(req: &Request<B>, key: &str) -> String \x7b",
  "    req.uri()",
  "        .query()",
  "        .and_then(|q| \x7b",
  "            url::form_urlencoded::parse(q.as_bytes())",
  "                .find(|(k, _)| k == key)",
  "                .map(|(_, v)| v.into_owned())",
  "        \x7d)",
  "        .unwrap_or_default()",
  "\x7d",
  "",
  "fn path_value(path_params: &HashMap<String, String>, key: &str) -> String \x7b",
  "    path_params.get(key).cloned().unwrap_or_default()",
  "\x7d",
  "",
  "fn parse_integer<T: std::str::FromStr>(raw: &str, key: &str) -> Result<T, String> \x7b",
  "    raw.parse().map_err(|_| \x7b",
  "        if raw.parse::<i128>().is_ok() || raw.parse::<u128>().is_ok() \x7b",
  "            format!(\"\x7b\x7d is out of range\", key)",
  "        \x7d else \x7b",
  "            format!(\"\x7b\x7d must be an integer\", key)",
  "        \x7d",
  "    \x7d)",
  "\x7d"]

/-- The lines of one record: its functions, each after a blank line. -/
def recordLines (record : Record) : List String :=
  ["", Text.trimmed (Function.bindText record), "", Text.trimmed (Function.validateText record)]

/-- The whole text of a module. -/
def text (target : String) (records : List Record) : String :=
  Function.endLines (headerLines target ++ records.flatMap recordLines ++ helperLines)

end RequestBinding.BindingsModule

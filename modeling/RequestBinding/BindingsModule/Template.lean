import RequestBinding.BindingsModule
import RequestBinding.Template

/-!
# The template of bindings modules

Bindings modules as a template with the functions of a record in its repeated part. Before them
stands the line end of the line before, and the marks cut off the line ends before themselves.
-/

namespace RequestBinding.BindingsModule

/-- The template that is filled with the name of a target and with the records. -/
def template : Template String Record where
  before := [
    .literal (Function.endLines ["// Code generated by tagwrangler-gen. DO NOT EDIT.", ""]
      ++ "//! Request binding and validation for `"),
    .value fun target => target,
    .literal (Function.endLines ["`.", "", "#![allow(dead_code, unused_variables)]", "",
      "use std::collections::HashMap;", "", "use http::Request;", "", "use super::*;"])]
  cutsBefore := true
  repeated := [
    .literal "\n\n", .trimmedValue Function.bindText,
    .literal "\n\n", .trimmedValue Function.validateText, .literal "\n"]
  cutsWithin := true
  after := [.literal ("\n" ++ Function.endLines helperLines)]

/-- The filled template, ended by a line end if it is not. -/
def filledText (target : String) (records : List Record) : String :=
  let text := template.fill target records
  if text.toList.getLast? = some '\n' then text else text ++ "\n"

end RequestBinding.BindingsModule

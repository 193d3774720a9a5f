import CodeBehind.Json.Reader
import CodeBehind.Layout

/-!
# Reading and writing layouts

A kind of line break is a choice by name, in lower or upper case.  So is an indentation; that of
spaces comes with its width.
-/

namespace CodeBehind

open Json Json.Reader

def LineBreak.reader : Json.Reader LineBreak :=
  choice [("LF", .bare .lf), ("lf", .bare .lf), ("CRLF", .bare .crlf), ("crlf", .bare .crlf)]

def LineBreak.name : LineBreak → String
  | lf => "lf"
  | crlf => "crlf"

def LineBreak.toValue (lineBreak : LineBreak) : Value :=
  .string lineBreak.name

def Indent.reader : Json.Reader Indent :=
  choice [("tab", .bare .tab), ("spaces", .carrying (map .spaces byte))]

def Indent.toValue : Indent → Value
  | tab => .string "tab"
  | spaces width => .object [("spaces", .number (.integer width.toNat))]

end CodeBehind

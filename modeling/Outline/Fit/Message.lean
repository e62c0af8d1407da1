import Outline.Fit.Basic
import Outline.Text.Quoted

namespace Outline

private def inQuotes (tag : String) : String := "'" ++ tag ++ "'"

-- `'a', 'b' or 'c'`
private def alternatives : List String → String
  | []        => ""
  | [t]       => inQuotes t
  | [t, u]    => inQuotes t ++ " or " ++ inQuotes u
  | t :: rest => inQuotes t ++ ", " ++ alternatives rest

namespace Fault

def name : Fault → String
  | missing         => "missing"
  | text            => "string_type"
  | textBytes       => "string_unicode"
  | textLength _    => "string_too_long"
  | truth           => "bool_type"
  | truthText       => "bool_parsing"
  | integer         => "int_type"
  | integerText     => "int_parsing"
  | integerFraction => "int_from_float"
  | integerSize     => "int_parsing_size"
  | finite          => "finite_number"
  | atLeast _       => "greater_than_equal"
  | atMost _        => "less_than_equal"
  | list            => "list_type"
  | textSet         => "frozen_set_type"
  | record _        => "model_type"
  | object          => "model_attributes_type"
  | dictionary      => "dict_type"
  | oneOf _         => "literal_error"
  | noTag _         => "union_tag_not_found"
  | unknownTag ..   => "union_tag_invalid"
  | json            => "json_invalid"
  | rule _          => "value_error"

def message : Fault → String
  | missing         => "Field required"
  | text            => "Input should be a valid string"
  | textBytes       =>
    "Input should be a valid string, unable to parse raw data as a unicode string"
  | textLength most => s!"String should have at most {most} character" ++ if most = 1 then "" else "s"
  | truth           => "Input should be a valid boolean"
  | truthText       => "Input should be a valid boolean, unable to interpret input"
  | integer         => "Input should be a valid integer"
  | integerText     => "Input should be a valid integer, unable to parse string as an integer"
  | integerFraction => "Input should be a valid integer, got a number with a fractional part"
  | integerSize     => "Unable to parse input string as an integer, exceeded maximum size"
  | finite          => "Input should be a finite number"
  | atLeast bound   => s!"Input should be greater than or equal to {bound}"
  | atMost bound    => s!"Input should be less than or equal to {bound}"
  | list            => "Input should be a valid list"
  | textSet         => "Input should be a valid frozenset"
  | record name     => "Input should be a valid dictionary or instance of " ++ name
  | object          => "Input should be a valid dictionary or object to extract fields from"
  | dictionary      => "Input should be a valid dictionary"
  | oneOf tags      => "Input should be " ++ alternatives tags
  | noTag key       => "Unable to extract tag using discriminator " ++ inQuotes key
  | unknownTag tag key tags =>
    "Input tag " ++ inQuotes tag ++ " found using " ++ inQuotes key ++
      " does not match any of the expected tags: " ++ ", ".intercalate (tags.map inQuotes)
  | json            => "JSON decode error"
  | rule why        => "Value error, " ++ why

end Fault

def Step.data : Step → Value
  | field name => .text name
  | item index => .int index

def Issue.data (i : Issue) : Value :=
  .map [("loc", .list (i.path.map Step.data)), ("type", .text i.fault.name),
        ("msg", .text i.fault.message)]

def issueCount (issues : List Issue) : String :=
  s!"{issues.length} validation error" ++ if issues.length = 1 then "" else "s"

end Outline

import ApiStencil.Template.Filter.Helper
import ApiStencil.Template.Filter.List
import ApiStencil.Template.Filter.Text
import ApiStencil.Template.Filter.Value
/-!
The filters that every template can use, by name: those of the language, and helpers.
-/
set_option autoImplicit false

namespace ApiStencil.Template.Filter

def builtIn : List (String × Filter) :=
  [("upper", ofText "upper" Text.toUpper), ("lower", ofText "lower" Text.toLower),
    ("trim", ofText "trim" Text.trim), ("trim_start", ofText "trim_start" Text.trimStart),
    ("trim_end", ofText "trim_end" Text.trimEnd), ("trim_start_matches", trimStartMatches),
    ("trim_end_matches", trimEndMatches), ("truncate", truncate), ("wordcount", wordcount),
    ("replace", replace), ("capitalize", ofText "capitalize" capitalized), ("title", ofText "title" titled),
    ("linebreaksbr", ofText "linebreaksbr" lineBreaksToTags), ("indent", indent),
    ("striptags", ofText "striptags" (onChars fun cs => withoutTags cs.length cs)),
    ("spaceless", ofText "spaceless" (onChars fun cs => withoutGaps cs.length cs)),
    ("urlencode", ofText "urlencode" (percentEncode keptInPath)),
    ("urlencode_strict", ofText "urlencode_strict" (percentEncode Char.isAlphanum)),
    ("escape", ofText "escape_html" escapeHtml), ("escape_xml", ofText "escape_html" escapeXml),
    ("slugify", ofText "slugify" slug), ("addslashes", ofText "addslashes" (onChars (·.flatMap slashed))),
    ("split", split), ("int", int), ("float", float),
    ("first", first), ("last", last), ("nth", nth), ("join", join), ("sort", sort), ("unique", unique),
    ("slice", slice), ("group_by", groupBy), ("filter", filterItems), ("map", mapItems), ("concat", concat),
    ("abs", abs), ("pluralize", pluralize), ("round", round), ("filesizeformat", filesize),
    ("length", length), ("reverse", reverse), ("json_encode", jsonEncode), ("as_str", asString), ("get", get)]

def helpers : List (String × Filter) :=
  [("snake_case", wordCase "snake_case" Text.snakeCase), ("camel_case", wordCase "camel_case" Text.camelCase),
    ("pascal_case", wordCase "pascal_case" Text.pascalCase),
    ("kebab_case", wordCase "kebab_case" Text.kebabCase),
    ("shouty_snake_case", wordCase "shouty_snake_case" Text.shoutySnakeCase), ("ref_name", refName),
    ("regex_replace", regexReplace), ("to_yaml", toYaml)]

def named? (name : String) : Option Filter := (helpers ++ builtIn).lookup name

end ApiStencil.Template.Filter

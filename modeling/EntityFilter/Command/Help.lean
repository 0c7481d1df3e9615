import EntityFilter.Command.Arguments

/-!
# Help

The help of the command and of its parts.  Only `compile` has more to say in full than in short.
-/

namespace EntityFilter

/-- The lines of a text, each with an end. -/
def HelpTopic.lines (texts : List String) : String :=
  String.join (texts.map (· ++ "\n"))

/-- The text of the help. -/
def HelpTopic.text : HelpTopic → Bool → String
  | command, _ => lines
    ["Parse and compile tag filter expressions",
     "",
     "Usage: tagql <COMMAND>",
     "",
     "Commands:",
     "  parse    Print the syntax tree of a filter as JSON",
     "  compile  Print the SQL statement for a filter",
     "  help     Print this message or the help of the given subcommand(s)",
     "",
     "Options:",
     "  -h, --help     Print help",
     "  -V, --version  Print version"]
  | parse, _ => lines
    ["Print the syntax tree of a filter as JSON",
     "",
     "Usage: tagql parse <FILTER>",
     "",
     "Arguments:",
     "  <FILTER>  Filter expression, or `-` to read stdin",
     "",
     "Options:",
     "  -h, --help  Print help"]
  | help, _ => lines
    ["Print this message or the help of the given subcommand(s)",
     "",
     "Usage: tagql help [COMMAND]...",
     "",
     "Arguments:",
     "  [COMMAND]...  Print help for the subcommand(s)"]
  | compile, false => lines
    ["Print the SQL statement for a filter",
     "",
     "Usage: tagql compile [OPTIONS] <FILTER>",
     "",
     "Arguments:",
     "  <FILTER>  Filter expression, or `-` to read stdin",
     "",
     "Options:",
     "      --org-id <ORG_ID>",
     "          [default: 1]",
     "      --user-id <USER_ID>",
     "          [default: 1]",
     "      --tags <TAGS>",
     "          Tag names to return per entity (comma separated, `*` for all)",
     "      --schema <SCHEMA>",
     "          Schema holding the entity and tag tables [default: public]",
     "      --kind-source <KIND_SOURCE>",
     "          [default: hierarchy] [possible values: hierarchy, parents-view]",
     "      --max-path-depth <MAX_PATH_DEPTH>",
     "          [default: 16]",
     "      --columns <COLUMNS>",
     "          entity_tag value columns to project (comma separated)",
     "  -h, --help",
     "          Print help (see more with '--help')"]
  | compile, true => lines
    ["Print the SQL statement for a filter",
     "",
     "Usage: tagql compile [OPTIONS] <FILTER>",
     "",
     "Arguments:",
     "  <FILTER>",
     "          Filter expression, or `-` to read stdin",
     "",
     "Options:",
     "      --org-id <ORG_ID>",
     "          [default: 1]",
     "",
     "      --user-id <USER_ID>",
     "          [default: 1]",
     "",
     "      --tags <TAGS>",
     "          Tag names to return per entity (comma separated, `*` for all)",
     "",
     "      --schema <SCHEMA>",
     "          Schema holding the entity and tag tables",
     "          ",
     "          [default: public]",
     "",
     "      --kind-source <KIND_SOURCE>",
     "          Possible values:",
     "          - hierarchy:    Recursive CTE over tag_hierarchy",
     "          - parents-view: Precomputed tag_def_parents view",
     "          ",
     "          [default: hierarchy]",
     "",
     "      --max-path-depth <MAX_PATH_DEPTH>",
     "          [default: 16]",
     "",
     "      --columns <COLUMNS>",
     "          entity_tag value columns to project (comma separated)",
     "",
     "  -h, --help",
     "          Print help (see a summary with '-h')"]

end EntityFilter

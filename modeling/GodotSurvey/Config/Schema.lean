import GodotSurvey.Text.Basic

/-!
# The schema of configuration files

The JSON schema that describes valid settings, for editors and other tools.
-/

namespace GodotSurvey.Config

/-- The schema as the text of a JSON file. -/
def schema : Text := "\x7b
  \"$schema\": \"https://json-schema.org/draft/2020-12/schema\",
  \"title\": \"gdlens configuration\",
  \"type\": \"object\",
  \"properties\": \x7b
    \"analysis\": \x7b
      \"type\": \"object\",
      \"properties\": \x7b
        \"include_properties\": \x7b \"type\": \"boolean\" \x7d,
        \"include_connections\": \x7b \"type\": \"boolean\" \x7d,
        \"include_script_insights\": \x7b \"type\": \"boolean\" \x7d,
        \"include_dependencies\": \x7b \"type\": \"boolean\" \x7d,
        \"include_methods\": \x7b \"type\": \"boolean\" \x7d,
        \"include_variables\": \x7b \"type\": \"boolean\" \x7d,
        \"max_depth\": \x7b \"type\": \"integer\", \"minimum\": 0 \x7d,
        \"workers\": \x7b \"type\": \"integer\", \"minimum\": 0 \x7d,
        \"project_root_max_depth\": \x7b \"type\": \"integer\", \"minimum\": 1 \x7d
      \x7d
    \x7d,
    \"loaders\": \x7b
      \"type\": [\"array\", \"null\"],
      \"items\": \x7b
        \"type\": \"object\",
        \"required\": [\"name\", \"kind\"],
        \"properties\": \x7b
          \"name\": \x7b \"type\": \"string\", \"pattern\": \"^[A-Za-z_][A-Za-z0-9_]*(\\\\.[A-Za-z_][A-Za-z0-9_]*)?$\" \x7d,
          \"kind\": \x7b \"enum\": [\"preload\", \"load\", \"classdb_reference\"] \x7d,
          \"allow_dot\": \x7b \"type\": \"boolean\" \x7d
        \x7d
      \x7d
    \x7d,
    \"patterns\": \x7b
      \"type\": \"object\",
      \"properties\": \x7b
        \"event_handler_prefix\": \x7b \"type\": \"string\", \"minLength\": 1 \x7d,
        \"state_keywords\": \x7b
          \"type\": [\"array\", \"null\"],
          \"items\": \x7b \"type\": \"string\", \"minLength\": 1 \x7d
        \x7d,
        \"complexity\": \x7b
          \"type\": \"object\",
          \"properties\": \x7b
            \"high_methods\": \x7b \"type\": \"integer\", \"minimum\": 1 \x7d,
            \"high_variables\": \x7b \"type\": \"integer\", \"minimum\": 1 \x7d,
            \"medium_methods\": \x7b \"type\": \"integer\", \"minimum\": 1 \x7d,
            \"medium_variables\": \x7b \"type\": \"integer\", \"minimum\": 1 \x7d
          \x7d
        \x7d
      \x7d
    \x7d,
    \"exclude\": \x7b
      \"type\": \"object\",
      \"properties\": \x7b
        \"dirs\": \x7b \"type\": [\"array\", \"null\"], \"items\": \x7b \"type\": \"string\" \x7d \x7d,
        \"patterns\": \x7b \"type\": [\"array\", \"null\"], \"items\": \x7b \"type\": \"string\" \x7d \x7d,
        \"gitignore\": \x7b \"type\": \"boolean\" \x7d,
        \"gdignore\": \x7b \"type\": \"boolean\" \x7d
      \x7d
    \x7d,
    \"cache\": \x7b
      \"type\": \"object\",
      \"properties\": \x7b
        \"enabled\": \x7b \"type\": \"boolean\" \x7d,
        \"dir\": \x7b \"type\": \"string\" \x7d,
        \"ttl\": \x7b \"type\": \"integer\", \"minimum\": 0 \x7d
      \x7d
    \x7d,
    \"output\": \x7b
      \"type\": \"object\",
      \"properties\": \x7b
        \"format\": \x7b \"enum\": [\"text\", \"json\", \"markdown\", \"toon\"] \x7d,
        \"color\": \x7b \"type\": \"boolean\" \x7d,
        \"verbose\": \x7b \"type\": \"boolean\" \x7d
      \x7d
    \x7d
  \x7d
\x7d
"

end GodotSurvey.Config

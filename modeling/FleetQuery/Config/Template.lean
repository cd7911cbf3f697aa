/-!
# The configuration template

The text of a configuration file to start from.  Its settings are the defaults.
-/

namespace FleetQuery

/-- The lines of the template. -/
def configTemplateLines : List String :=
  ["# Bateau Configuration",
   "#",
   "# Environment variables override these settings:",
   "# - BATEAU_SNAPSHOT",
   "# - BATEAU_DEFAULT_KIND",
   "# - BATEAU_LOG_LEVEL",
   "# - BATEAU_LOG_FORMAT",
   "",
   "[source]",
   "# JSON snapshot of containers and images (\"-\" reads stdin)",
   "# snapshot = \"/var/lib/bateau/snapshot.json\"",
   "",
   "[query]",
   "# Entity kind queried when neither --containers nor --images is given",
   "default_kind = \"containers\"",
   "",
   "[logging]",
   "# Log level: trace, debug, info, warn, error",
   "level = \"warn\"",
   "",
   "# Log format: pretty (multi-line), full (one line per event)",
   "# or json (for log shippers)",
   "format = \"pretty\"",
   "",
   "# Optional log file path",
   "# file = \"/var/log/bateau/bateau.log\""]

/-- The template. -/
def configTemplate : String := String.join (configTemplateLines.map (· ++ "\n"))

end FleetQuery

import GodotSurvey.Json.Writer

/-!
# The server manifest

The description of the server under which it is published in a registry of servers.
-/

namespace GodotSurvey.Manifest

open Document

def serverName : Text := "gdlens"
def repositoryUrl : Text := "https://github.com/panbanda/gdlens"

/-- The version as it is published; a build without one counts as the version 0.0.0. -/
def publishedVersion (version : Text) : Text :=
  let v := Text.stripStart version "v"
  if v.isEmpty || v == "dev" then "0.0.0" else v

/-- How the server is installed and started. -/
def package (version : Text) : Document :=
  ofFields [field "registryType" (.text "oci"),
    field "identifier" (.text ("ghcr.io/panbanda/gdlens:" ++ version)),
    field "packageArguments" (.list [
      ofFields [field "type" (.text "positional"), field "value" (.text "mcp")]]),
    field "environmentVariables" (.list [
      ofFields [field "name" (.text "GDLENS_CONFIG"),
        field "description" (.text "Path to a gdlens.toml, gdlens.yaml or gdlens.json file"),
        field "isRequired" (.bool false)]]),
    field "transport" (ofFields [field "type" (.text "stdio")])]

def document (version : Text) : Document :=
  let version := publishedVersion version
  ofFields [
    field "$schema" (.text
      "https://static.modelcontextprotocol.io/schemas/2025-10-17/server.schema.json"),
    field "name" (.text "io.github.panbanda/gdlens"), field "title" (.text serverName),
    field "description" (.text ("Static analysis of Godot GDScript scripts and scenes: structure, "
      ++ Text.ofString "call flows, signals and project dependencies")),
    field "version" (.text version), field "websiteUrl" (.text repositoryUrl),
    field "repository" (ofFields [field "url" (.text repositoryUrl),
      field "source" (.text "github")]),
    field "packages" (.list [package version])]

/-- The manifest of a version as indented JSON. -/
def render (version : Text) : Text := Json.indented (document version)

end GodotSurvey.Manifest

import RealmPlan.Resource
import RealmPlan.Schema

namespace RealmPlan

def Schema.Notes.described (lines : List String) : Schema.Notes :=
  { description := some ("\n".intercalate lines) }

def Schema.optionalText (description : Option String) : Schema := .text { description, nullable := true }

def Role.schema : Schema :=
  .record (.described [
      "Client role",
      "",
      "Observed roles always carry the `id` Keycloak assigned. Desired roles may leave it",
      "empty, in which case they are matched to observed roles by `name`."])
    [("attributes", .table { default := some (.object []) } (.list {} (.text {}))),
     ("clientRole", .flag { default := some (.bool false) }),
     ("composite", .flag { default := some (.bool false) }),
     ("containerId", .optionalText none),
     ("description", .optionalText none),
     ("id", .text (.described ["Keycloak role id, empty when not yet known"])),
     ("name", .text {})]
    ["name"]

def Client.schema : Schema :=
  .record (.described ["Client registration"])
    [("clientId", .text (.described ["Client id used in OAuth flows"])),
     ("description", .optionalText none),
     ("enabled", .flag { default := some (.bool true) }),
     ("id", .text (.described ["Keycloak-internal id, empty until Keycloak assigns one"])),
     ("name", .optionalText none),
     ("publicClient", .flag { default := some (.bool false) }),
     ("redirectUris", .list { default := some (.list []) } (.text {})),
     ("rootUrl", .optionalText none),
     ("secret", .optionalText (some "Client secret, copied into the generated Kubernetes secret"))]
    ["clientId"]

def Spec.schema : Schema :=
  .record (.described [
      "KeycloakClient Custom Resource Definition",
      "",
      "Declares a client registration in a Keycloak realm together with the",
      "client roles that should exist on it.",
      "",
      "# Example",
      "",
      "```yaml",
      "apiVersion: keycloak.org/v1alpha1",
      "kind: KeycloakClient",
      "metadata:",
      "  name: billing-api",
      "  namespace: payments",
      "spec:",
      "  realm: payments",
      "  client:",
      "    clientId: billing-api",
      "    secret: s3cr3t",
      "  roles:",
      "    - name: invoice-reader",
      "    - id: 6f1c7f1e-2a9e-4c55-9a0b-53c0d3f4a1b2",
      "      name: invoice-admin",
      "```"])
    [("client", Client.schema),
     ("realm", .text (.described [
       "Realm the client is registered in",
       "Carried into every action for context; the realm itself is not managed here"])),
     ("roles", .list
       { Schema.Notes.described [
           "Client roles",
           "Names must be unique; an `id` pins a role to an existing Keycloak role so renames",
           "update it in place instead of deleting and recreating it"] with
         default := some (.list []) }
       Role.schema)]
    ["client", "realm"]

def Phase.schema : Schema :=
  .choice (.described ["Reconciliation phase of a KeycloakClient"]) (all.map name)

def Status.schema : Schema :=
  .record { description := some "Status of the KeycloakClient resource", nullable := true }
    [("message", .optionalText (some "Human-readable description of the last pass")),
     ("phase", .anyOf [Phase.schema, .null]),
     ("ready", .flag
       { description := some "True when the last pass applied every action"
         default := some (.bool false) }),
     ("secretName", .optionalText (some "Name of the Kubernetes secret holding the client credentials"))]
    []

namespace Resource

def rootSchema : Json :=
  .object [
    ("description", .text "Auto-generated derived type for KeycloakClientSpec via `CustomResource`"),
    ("properties", .object [("spec", Spec.schema.json), ("status", Status.schema.json)]),
    ("required", .texts ["spec"]),
    ("title", .text "KeycloakClient"),
    ("type", .text "object")]

def printerColumn (name type path : String) : Json :=
  .object [("jsonPath", .text path), ("name", .text name), ("type", .text type)]

-- What a cluster has to be told before it keeps such resources.
def definition : Json :=
  .object [
    ("apiVersion", .text "apiextensions.k8s.io/v1"),
    ("kind", .text "CustomResourceDefinition"),
    ("metadata", .object [("name", .text "keycloakclients.keycloak.org")]),
    ("spec", .object [
      ("group", .text "keycloak.org"),
      ("names", .object [
        ("categories", .list []),
        ("kind", .text "KeycloakClient"),
        ("plural", .text "keycloakclients"),
        ("shortNames", .texts ["kcc"]),
        ("singular", .text "keycloakclient")]),
      ("scope", .text "Namespaced"),
      ("versions", .list [
        .object [
          ("additionalPrinterColumns", .list [
            printerColumn "Phase" "string" ".status.phase",
            printerColumn "Ready" "boolean" ".status.ready"]),
          ("name", .text "v1alpha1"),
          ("schema", .object [("openAPIV3Schema", rootSchema)]),
          ("served", .bool true),
          ("storage", .bool true),
          ("subresources", .object [("status", .object [])])]])])]

end Resource
end RealmPlan

import RealmPlan.Metadata.Codec
import RealmPlan.Secret

namespace RealmPlan.Secret
open Document

variable {δ : Type} {m : Type → Type} [Monad m] [MonadExcept Mismatch m] [Document δ m]

-- A version or kind that is given has to be the one of secrets.
def fixed (word : String) (v : δ) : m Unit := do
  let given ← string v
  if given = word then return () else throw (.wrongValue (.text given) word)

def take (secret : Secret) (name : String) (v : δ) : m Secret :=
  match name with
  | "apiVersion" => do fixed "v1" v; return secret
  | "kind" => do fixed "Secret" v; return secret
  | "data" => do return { secret with data := ← optional (dict bytes) v }
  | "immutable" => do return { secret with immutable := ← optional flag v }
  | "metadata" => do return { secret with metadata := (← optional Metadata.read v).getD {} }
  | "stringData" => do return { secret with stringData := ← optional (dict string) v }
  | "type" => do return { secret with type := ← optional string v }
  | _ => return secret

def read (v : δ) : m Secret := fields "Secret" {} take v

def bytesJson (table : Dict (List UInt8)) : Json :=
  .object (table.entries.map fun (key, bytes) => (key, .text (Base64.encode bytes)))

def json (secret : Secret) : Json :=
  .object <|
    [("apiVersion", .text "v1")] ++
    Json.field? "data" bytesJson secret.data ++
    Json.field? "immutable" .bool secret.immutable ++
    [("kind", .text "Secret"), ("metadata", secret.metadata.json)] ++
    Json.field? "stringData" Dict.textsJson secret.stringData ++
    Json.field? "type" .text secret.type

end RealmPlan.Secret

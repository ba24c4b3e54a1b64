import EdgeFleet.Store.Token
/-!
# Columns by their names

A column is named in a statement without regard to the case of ASCII letters; three other names
stand for the id of a row. What is given for a name is pasted into the statement, so it may be
quoted or stand in brackets, with blanks and comments around it. If it is no name, it is the first
token that cannot stand there that the database objects to; a reserved word is such a token too.
-/

namespace EdgeFleet

namespace Column

/-- The columns of a table. -/
def names : TableName → List String
  | .environments =>
    ["id", "name", "environment_type", "url", "public_url", "group_id", "status", "edge_id", "edge_key",
      "edge_checkin_interval", "last_check_in_date", "agent_platform", "agent_version",
      "edge_async_mode", "edge_ping_interval", "edge_snapshot_interval", "edge_command_interval",
      "is_edge_device", "user_trusted", "created_at"]
  | .settings => ["id", "edge_agent_checkin_interval", "tunnel_keep_alive_secs", "updated_at"]

/-- The other names of the id of a row. -/
def idNames : List String := ["rowid", "oid", "_rowid_"]

/-- The words that are no names. -/
def reserved : List String :=
  ["add", "all", "alter", "and", "as", "autoincrement", "between", "case", "check", "collate",
    "commit", "constraint", "create", "default", "deferrable", "delete", "distinct", "drop", "else",
    "escape", "except", "exists", "foreign", "from", "group", "having", "in", "index", "insert",
    "intersect", "into", "is", "isnull", "join", "limit", "not", "nothing", "notnull", "null", "on",
    "or", "order", "primary", "references", "returning", "select", "set", "table", "then", "to",
    "transaction", "union", "unique", "update", "using", "values", "when", "where"]

/-- A text in lower case, by ASCII. -/
def lower (s : String) : String := String.ofList (s.toList.map Char.toLower)

/-- Reads a name, and what is behind it. -/
def readToken (s : List Char) : Except NameFault Token := do
  let t ← Token.next s
  if t.kind = .name ∧ !(reserved.contains (lower (String.ofList t.text))) then .ok t
  else .error t.objection

/-- Refuses a text in which there is another token. -/
def ends (s : List Char) : Except NameFault Unit :=
  match Token.skip s with
  | some [] => .ok ()
  | some s => .error (Token.ofFront s).objection
  | none => .error .incomplete

/-- Reads a text as a name, which may stand in brackets. -/
def readName (s : String) : Except NameFault String := do
  match Token.skip s.toList with
  | some ('(' :: r) =>
    let t ← readToken r
    let close ← Token.next t.rest
    if close.text = [')'] then
      ends close.rest
      .ok t.name
    else .error close.objection
  | _ =>
    let t ← readToken s.toList
    ends t.rest
    .ok t.name

/-- The column of a table that a name stands for. -/
def resolve? (t : TableName) (name : String) : Option String :=
  if (names t).contains (lower name) then some (lower name)
  else if idNames.contains (lower name) then some "id"
  else none

end Column

end EdgeFleet

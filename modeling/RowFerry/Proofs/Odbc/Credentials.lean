import RowFerry.Odbc.ConnectionString
import RowFerry.Text.Lists

/-!
Credentials in connection strings. A reader of attributes that knows how braces are written finds
exactly the user and the password behind the port, whatever characters are in them: a closing brace
of a value is written twice, so the one that ends the value is the first that stands alone.
-/

namespace RowFerry.Odbc

/-! ## Reading attributes -/

/-- The value that a text is within, and what follows it. After a closing brace a second one stands
for one in the value, and any other character no longer belongs to it. -/
def readBraced (closing : Bool) : List Char → Option (List Char × List Char)
  | [] => if closing then some ([], []) else none
  | c :: cs =>
    if c = '\x7d' then
      if closing then (readBraced false cs).map fun p => (c :: p.1, p.2) else readBraced true cs
    else if closing then some ([], c :: cs)
    else (readBraced false cs).map fun p => (c :: p.1, p.2)

/-- The attribute that a text begins with, and what follows it: a name, an equals sign, a value
between braces and a semicolon. -/
def readAttribute (cs : List Char) : Option ((String × String) × List Char) := do
  let (name, rest) ← Text.cutAt '=' cs
  let rest ← Text.dropLead ['\x7b'] rest
  let (value, rest) ← readBraced false rest
  let rest ← Text.dropLead [';'] rest
  pure ((String.ofList name, String.ofList value), rest)

theorem readBraced_le {closing : Bool} {cs : List Char} {p : List Char × List Char}
    (h : readBraced closing cs = some p) : p.2.length ≤ cs.length := by
  induction cs generalizing closing p with
  | nil => grind [readBraced]
  | cons c cs ih => grind [readBraced, Option.map_eq_some_iff]

theorem readAttribute_lt {cs : List Char} {p : (String × String) × List Char}
    (h : readAttribute cs = some p) :
    p.2.length < cs.length := by
  simp only [readAttribute, Option.bind_eq_bind, Option.bind_eq_some_iff, Option.pure_def,
    Option.some.injEq] at h
  obtain ⟨⟨name, afterName⟩, hname, afterBrace, hbrace, ⟨value, afterValue⟩, hvalue,
    rest, hrest, rfl⟩ := h
  have hcut := congrArg List.length (Text.cutAt_eq_some_iff.mp hname).1
  rw [List.length_append, List.length_cons] at hcut
  change rest.length < cs.length
  calc rest.length
    _ ≤ afterValue.length := Text.dropLead_le hrest
    _ ≤ afterBrace.length := readBraced_le hvalue
    _ ≤ afterName.length := Text.dropLead_le hbrace
    _ < cs.length := by omega

/-- The attributes that a text consists of. -/
def readAttributes (cs : List Char) : Option (List (String × String)) :=
  if cs = [] then some []
  else
    match hread : readAttribute cs with
    | none => none
    | some (nameAndValue, rest) =>
      have : rest.length < cs.length := readAttribute_lt hread
      (readAttributes rest).map (nameAndValue :: ·)
termination_by cs.length

/-! ## Attributes come back -/

/-- Within a value the doubled braces of a text are read as the text; the brace after them is read
as the end only because no brace follows it. -/
theorem readBraced_doubledBraces (value rest : List Char) :
    readBraced false (doubledBraces value ++ '\x7d' :: ';' :: rest) =
      some (value, ';' :: rest) := by
  induction value with
  | nil => simp [doubledBraces, readBraced]
  | cons c cs ih =>
    rw [doubledBraces, List.flatMap_cons, ← doubledBraces]
    by_cases hc : c = '\x7d'
    · simp [hc, readBraced, ih]
    · simp [hc, readBraced, ih]

/-- The text of an attribute. -/
def attributeText (name value : String) : String := name ++ "=" ++ braced value ++ ";"

theorem attributeText_toList (name value : String) :
    (attributeText name value).toList =
      name.toList ++ '=' :: '\x7b' :: (doubledBraces value.toList ++ '\x7d' :: [';']) := by
  simp [attributeText, braced]

theorem readAttribute_text {name : String} (hname : '=' ∉ name.toList) (value : String)
    (rest : List Char) :
    readAttribute ((attributeText name value).toList ++ rest) = some ((name, value), rest) := by
  have hcut : Text.cutAt '=' ((attributeText name value).toList ++ rest) =
      some (name.toList, '\x7b' :: (doubledBraces value.toList ++ '\x7d' :: ';' :: rest)) := by
    rw [Text.cutAt_eq_some_iff, attributeText_toList]
    exact ⟨by simp, hname⟩
  simp [readAttribute, hcut, Text.dropLead, readBraced_doubledBraces]

theorem readAttributes_nil : readAttributes [] = some [] := by
  rw [readAttributes, if_pos rfl]

theorem readAttributes_cons {name : String} (hname : '=' ∉ name.toList) (value : String)
    (rest : List Char) :
    readAttributes ((attributeText name value).toList ++ rest) =
      (readAttributes rest).map ((name, value) :: ·) := by
  have htext := readAttribute_text hname value rest
  have hne : (attributeText name value).toList ++ rest ≠ [] := by simp [attributeText_toList]
  rw [readAttributes, if_neg hne]
  split
  next hread => cases hread.symm.trans htext
  next hread =>
    cases hread.symm.trans htext
    rfl

/-! ## Connection strings -/

/-- The attributes of a connection string up to the port. -/
def serverAttributes (driver host : String) (port : Nat) : String :=
  "Driver=\x7b" ++ driver ++ "\x7d;Server=" ++ host ++ ";TCP_Port=" ++ natText port ++ ";"

theorem connectionString_eq (driver host : String) (port : Nat) (user password : String) :
    connectionString driver host port user password =
      serverAttributes driver host port ++
        (attributeText "UID" user ++ attributeText "PWD" password) := by
  have huser : (";UID=" : String) = ";" ++ ("UID" ++ "=") := rfl
  have hpassword : (";PWD=" : String) = ";" ++ ("PWD" ++ "=") := rfl
  unfold connectionString
  rw [huser, hpassword]
  unfold serverAttributes attributeText
  simp only [String.append_assoc, -String.reduceAppend]

theorem readAttributes_credentials (user password : String) :
    readAttributes (attributeText "UID" user ++ attributeText "PWD" password).toList =
      some [("UID", user), ("PWD", password)] := by
  have huser : '=' ∉ "UID".toList := by decide
  have hpassword : '=' ∉ "PWD".toList := by decide
  rw [String.toList_append, ← List.append_nil (attributeText "PWD" password).toList,
    readAttributes_cons huser, readAttributes_cons hpassword, readAttributes_nil,
    Option.map_some, Option.map_some]

/-- **Credentials stay in their attributes.** What stands behind the port of a connection
string is read as two attributes, the user and the password, whatever characters are in them,
and as nothing else. So with the driver, the host and the port a connection string determines
the user and the password. -/
theorem credentials_read_back (driver host : String) (port : Nat) (user password : String) :
    (Text.dropLead (serverAttributes driver host port).toList
        (connectionString driver host port user password).toList).bind readAttributes =
        some [("UID", user), ("PWD", password)] ∧
      ∀ otherUser otherPassword, connectionString driver host port user password =
        connectionString driver host port otherUser otherPassword ↔
          user = otherUser ∧ password = otherPassword := by
  have hread (user password : String) :
      (Text.dropLead (serverAttributes driver host port).toList
        (connectionString driver host port user password).toList).bind readAttributes =
        some [("UID", user), ("PWD", password)] := by
    rw [connectionString_eq, String.toList_append, Text.dropLead_append, Option.bind_some,
      readAttributes_credentials]
  refine ⟨hread user password, fun otherUser otherPassword => ⟨fun h => ?_, ?_⟩⟩
  · have hboth := hread otherUser otherPassword
    rw [← h, hread user password] at hboth
    simpa using hboth
  · rintro ⟨rfl, rfl⟩
    rfl

/-- Braces at the end of a password do not end its attribute. -/
example : readAttributes "UID=\x7bSYSDBA\x7d;PWD=\x7bx\x7d\x7d\x7d\x7d\x7d;".toList =
    some [("UID", "SYSDBA"), ("PWD", "x\x7d\x7d")] := by cbv

end RowFerry.Odbc

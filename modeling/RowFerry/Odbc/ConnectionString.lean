import RowFerry.Failure

/-!
Connection strings: attributes with a semicolon after each. Credentials stand between braces with
every closing brace written twice, so nothing in them can end the attribute.
-/

namespace RowFerry.Odbc

/-- The characters of a text with every closing brace written twice. -/
def doubledBraces (cs : List Char) : List Char :=
  cs.flatMap fun c => if c = '\x7d' then ['\x7d', '\x7d'] else [c]

/-- A value between braces. -/
def braced (value : String) : String :=
  String.ofList ('\x7b' :: doubledBraces value.toList ++ ['\x7d'])

/-- The string that names the driver, the server and the credentials. -/
def connectionString (driver host : String) (port : Nat) (user password : String) : String :=
  "Driver=\x7b" ++ driver ++ "\x7d;Server=" ++ host ++ ";TCP_Port=" ++ natText port ++
    ";UID=" ++ braced user ++ ";PWD=" ++ braced password ++ ";"

end RowFerry.Odbc

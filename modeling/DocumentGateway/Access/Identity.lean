import DocumentGateway.Access.Credentials

/-!
# Users and accounts

The users the gateway knows. Credentials verify if their password is that of the user with their
name; of two users with one name the later counts.
-/

namespace DocumentGateway.Access

/-- A caller who has proved who they are. -/
structure Account where
  /-- The user's name. -/
  id : String
  /-- The roles the user holds. -/
  roles : List String
  deriving DecidableEq, Repr

/-- A user. -/
structure User where
  /-- The user's name. -/
  userid : String
  /-- The user's password. -/
  password : String
  /-- The roles the user holds. -/
  roles : List String
  deriving DecidableEq, Repr

/-- The user with a name; of several the last. -/
def findUser? (users : List User) (userid : String) : Option User :=
  (users.filter fun u => u.userid = userid).getLast?

/-- The account that credentials open. -/
def verify (users : List User) (c : Credentials) : Option Account :=
  (findUser? users c.userid).bind fun u =>
    if u.password = c.password then some ⟨u.userid, u.roles⟩ else none

end DocumentGateway.Access

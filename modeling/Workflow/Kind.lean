/-!
# Kinds of steps

The operations that a node can stand for, with the variable that each binds its result to.
-/

namespace Workflow

/-- What a node does. -/
inductive Kind where
  | input
  | validation
  | find
  | insert
  | update
  | delete
  | auth
  | email
  | login
deriving DecidableEq

namespace Kind

/-- All kinds, in the order in which they are listed. -/
def all : List Kind :=
  [.input, .validation, .find, .insert, .update, .delete, .auth, .email, .login]

/-- The name of a kind. -/
def name : Kind → String
  | .input => "input"
  | .validation => "inputValidation"
  | .find => "dbFind"
  | .insert => "dbInsert"
  | .update => "dbUpdate"
  | .delete => "dbDelete"
  | .auth => "authMiddleware"
  | .email => "emailSend"
  | .login => "userLogin"

/-- The kind with a name. -/
def ofName? (name : String) : Option Kind := all.find? (·.name = name)

/-- The variable that a step binds when its node names none. -/
def defaultOutput : Kind → String
  | .input => "input"
  | .validation => "validated"
  | .find => "foundData"
  | .insert => "createdRecord"
  | .update => "updatedRecord"
  | .delete => "deletedRecord"
  | .auth => "currentUser"
  | .email => "emailResult"
  | .login => "loginResult"

/-- The variable that a step binds whatever its node says. -/
def fixedOutput? : Kind → Option String
  | .input => some "input"
  | .auth => some "currentUser"
  | _ => none

end Kind

end Workflow

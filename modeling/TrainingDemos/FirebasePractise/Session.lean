import TrainingDemos.DocumentStore
import TrainingDemos.Transitions

namespace TrainingDemos.FirebasePractise
set_option autoImplicit true

inductive Root where
  | notRunning
  | loginNavi
  | homeNavi
  deriving DecidableEq

inductive Request where
  /-- `loginVC` is the number of the screen whose LoginVC asks; it is held weakly. -/
  | signIn (loginVC : Nat)
  | createUser
  /-- `error` is that of `createUser`, which the completion of the write has in scope. -/
  | setData (error : Option String) (write : Write)

structure Answer where
  error : Option String
  uid : String
  txtName : String
  txtEmail : String

structure Session where
  root : Root
  /-- How many root view controllers there have been. -/
  screen : Nat
  userID : String
  /-- `defaults` under the keys login and userID. -/
  login : Option Int
  storedID : Option String
  /-- `Auth.auth().currentUser`, which Firebase keeps over launches. -/
  currentUser : Option String
  users : Collection
  inFlight : List Request
  alerts : List String
  /-- A user has logged out, and no sign-in has been started since. -/
  loggedOut : Bool

namespace Session

def installed : Session :=
  ⟨.notRunning, 0, "1234", none, none, none, .empty, [], [], false⟩

def setRoot (s : Session) (root : Root) : Session :=
  { s with root := root, screen := s.screen + 1 }

/-- The process ends, and with it what was waiting for answers. -/
def trap (s : Session) : Session := { s with root := .notRunning, inFlight := [] }

def showAlertMsg (s : Session) (msg : String) : Session := { s with alerts := s.alerts ++ [msg] }

def validationTextfield (s : Session) (text msg : String) (next : Session → Session) : Session :=
  if text ≠ "" then next s else s.showAlertMsg msg

/-- `application(_:didFinishLaunchingWithOptions:)`, in a new process. -/
def launch (s : Session) : Session :=
  { s with userID := s.storedID.getD "1234", inFlight := [] }.setRoot
    (if s.login.isSome then .homeNavi else .loginNavi)

def start (request : Request) (s : Session) : Session :=
  { s with inFlight := s.inFlight ++ [request], loggedOut := false }

def Alive (s : Session) (loginVC : Nat) : Prop := s.root = .loginNavi ∧ s.screen = loginVC

instance (s : Session) (loginVC : Nat) : Decidable (s.Alive loginVC) :=
  inferInstanceAs (Decidable (_ ∧ _))

def click_onLogoutBtn (s : Session) (error : Option String) : Session :=
  { s with
    login := none
    storedID := none
    currentUser := if error = none then none else s.currentUser
    loggedOut := true }.setRoot .loginNavi

end Session

namespace LoginVC

def FirebaseLogin (s : Session) : Session := s.start (.signIn s.screen)

def loginbtnclick (txtEmail txtPassword : String) (s : Session) : Session :=
  s.validationTextfield txtEmail "Please enter your email-Id" fun s =>
    s.validationTextfield txtPassword "Please enter password" FirebaseLogin

/-- The completion of `signIn`. Without the LoginVC it traps, on success after all was stored. -/
def signedIn (loginVC : Nat) (answer : Answer) (s : Session) : Session :=
  match answer.error with
  | some error => if s.Alive loginVC then s.showAlertMsg error else s.trap
  | none =>
    let t := { s with
      currentUser := some answer.uid
      userID := answer.uid
      storedID := some answer.uid
      login := some 1 }
    if s.Alive loginVC then t.setRoot .homeNavi else t.trap

end LoginVC

namespace SignupVC

def FirebaseSignUP (s : Session) : Session := s.start .createUser

def clickonsignup (txtName txtEmail txtPasswoprd : String) (s : Session) : Session :=
  s.validationTextfield txtName "Please enter your name" fun s =>
    s.validationTextfield txtEmail "Please enter email-Id" fun s =>
      s.validationTextfield txtPasswoprd "Please enter password" FirebaseSignUP

/-- The write to `users/{uid}`, with the texts that the form shows by then. -/
def profile (answer : Answer) : Write :=
  .setData answer.uid [("name", .string answer.txtName), ("email", .string answer.txtEmail)]

def userCreated (answer : Answer) (s : Session) : Session :=
  match answer.error with
  | some _ => s
  | none =>
    { s with
      currentUser := some answer.uid
      userID := answer.uid
      inFlight := s.inFlight ++ [.setData answer.error (profile answer)] }

/-- The completion of the write tests `error`, not the `Error` that it is given. -/
def profileWritten (error : Option String) (write : Write) (answer : Answer) (s : Session) :
    Session :=
  let s := { s with users := if answer.error = none then s.users.perform write else s.users }
  match error with
  | some error => s.showAlertMsg error
  | none => { s with login := some 1, storedID := some s.userID }.setRoot .homeNavi

end SignupVC

def Request.completed (answer : Answer) (s : Session) : Request → Session
  | .signIn loginVC => LoginVC.signedIn loginVC answer s
  | .createUser => SignupVC.userCreated answer s
  | .setData error write => SignupVC.profileWritten error write answer s

namespace Session

inductive Event where
  | launch
  | loginbtnclick (txtEmail txtPassword : String)
  | clickonsignup (txtName txtEmail txtPasswoprd : String)
  | completed (i : Nat) (answer : Answer)
  /-- `error` is thrown by `signOut`. -/
  | click_onLogoutBtn (error : Option String)

/-- The process may end and be launched again at any time. -/
def Enabled (s : Session) : Event → Prop
  | .launch => True
  | .loginbtnclick _ _ | .clickonsignup _ _ _ => s.root = .loginNavi
  | .completed i _ => i < s.inFlight.length
  | .click_onLogoutBtn _ => s.root = .homeNavi

instance (s : Session) : (e : Event) → Decidable (s.Enabled e)
  | .launch => inferInstanceAs (Decidable True)
  | .loginbtnclick _ _ | .clickonsignup _ _ _ => inferInstanceAs (Decidable (_ = _))
  | .completed i _ => inferInstanceAs (Decidable (i < s.inFlight.length))
  | .click_onLogoutBtn _ => inferInstanceAs (Decidable (_ = _))

def step (s : Session) : Event → Option Session
  | .launch => some s.launch
  | .loginbtnclick txtEmail txtPassword => some (LoginVC.loginbtnclick txtEmail txtPassword s)
  | .clickonsignup txtName txtEmail txtPasswoprd =>
    some (SignupVC.clickonsignup txtName txtEmail txtPasswoprd s)
  | .completed i answer =>
    s.inFlight[i]?.map (·.completed answer { s with inFlight := s.inFlight.eraseIdx i })
  | .click_onLogoutBtn error => some (s.click_onLogoutBtn error)

def machine : Machine Session Event where
  enabled := Enabled
  step := step

instance (s : Session) (e : Event) : Decidable (machine.enabled s e) :=
  inferInstanceAs (Decidable (s.Enabled e))

end Session

end TrainingDemos.FirebasePractise

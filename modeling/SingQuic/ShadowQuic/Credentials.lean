import SingQuic.Lib.Scan
import SingQuic.Lib.Table
import SingQuic.ShadowQuic.Server

/-! SunnyQUIC credentials and the table the server looks them up in. A credential is the
digest of the name and the password with a colon between them, so that names with a colon
in them can make two users share one. -/
namespace SingQuic.ShadowQuic
open Wire

structure User where
  name : String
  password : String
  deriving DecidableEq, Repr

abbrev Digest := { bytes : Bytes // bytes.length = 32 }

/-- The text that is hashed. -/
def sunnyInput (username password : String) : String := username ++ ":" ++ password

section
variable (sha256 : Bytes → Digest)

/-- The digest at the start of 64 zero bytes. -/
def sunnyCredential (username password : String) : Credential :=
  let digest := sha256 (asBytes (sunnyInput username password))
  ⟨digest.val ++ List.replicate (64 - digest.val.length) 0, by
    rw [List.length_append, List.length_replicate, digest.property]⟩

def sunnyUsers (users : List User) : Credential → Option String :=
  Table.collect (fun user => sunnyCredential sha256 user.name user.password) User.name users

/-- The inputs that are hashed for a list of users. -/
def sunnyInputs (users : List User) : Set Bytes :=
  { input | ∃ user ∈ users, asBytes (sunnyInput user.name user.password) = input }

/-- No two users are hashed from one text. -/
def Unambiguous (users : List User) : Prop :=
  ∀ first ∈ users, ∀ second ∈ users,
    sunnyInput first.name first.password = sunnyInput second.name second.password → first = second

theorem asBytes_injective : Function.Injective asBytes := by
  intro first second same
  have decoded := congrArg fromUtf8 same
  rw [fromUtf8_asBytes, fromUtf8_asBytes] at decoded
  exact Option.some.inj decoded

theorem toList_sunnyInput (username password : String) :
    (sunnyInput username password).toList = username.toList ++ ':' :: password.toList := by
  simp [sunnyInput]

variable {sha256} {users : List User}

theorem sunnyCredential_eq_iff (injective : Set.InjOn sha256 (sunnyInputs users)) {first second : User}
    (one : first ∈ users) (other : second ∈ users) :
    sunnyCredential sha256 first.name first.password = sunnyCredential sha256 second.name second.password ↔
      sunnyInput first.name first.password = sunnyInput second.name second.password := by
  constructor
  · intro same
    have sizes := (sha256 (asBytes (sunnyInput first.name first.password))).property.trans
      (sha256 (asBytes (sunnyInput second.name second.password))).property.symm
    have digests := (List.append_inj (congrArg Subtype.val same) sizes).1
    exact asBytes_injective (injective ⟨first, one, rfl⟩ ⟨second, other, rfl⟩ (Subtype.ext digests))
  · intro same
    apply Subtype.ext
    dsimp only [sunnyCredential]
    rw [same]

/-- The name is part of the text, so that one name and one text make one password. -/
theorem eq_of_sunnyInput_eq {first second : User} (named : first.name = second.name)
    (same : sunnyInput first.name first.password = sunnyInput second.name second.password) :
    first = second := by
  obtain ⟨name, password⟩ := first
  obtain ⟨other, secret⟩ := second
  dsimp only at named same
  subst named
  have texts := congrArg String.toList same
  rw [toList_sunnyInput, toList_sunnyInput] at texts
  have passwords := List.tail_eq_of_cons_eq (List.append_cancel_left texts)
  rw [String.toList_injective passwords]

/-- The first colon is the one that was put in between. -/
theorem unambiguous_of_colonless (plain : ∀ user ∈ users, ':' ∉ user.name.toList) : Unambiguous users := by
  intro first one second other same
  have texts := congrArg String.toList same
  rw [toList_sunnyInput, toList_sunnyInput] at texts
  have before : ∀ user ∈ users, (user.name.toList ++ ':' :: user.password.toList).takeWhile (· ≠ ':') =
      user.name.toList := by
    intro user member
    apply (Scan.takeWhile_exact _ (by simp)).1
    intro c inside
    exact decide_eq_true fun colon => plain user member (colon ▸ inside)
  have names := congrArg (List.takeWhile (· ≠ ':')) texts
  rw [before first one, before second other] at names
  exact eq_of_sunnyInput_eq (String.toList_injective names) same

theorem sunnyUsers_of_unambiguous (injective : Set.InjOn sha256 (sunnyInputs users))
    (unambiguous : Unambiguous users) {user : User} (configured : user ∈ users) :
    sunnyUsers sha256 users (sunnyCredential sha256 user.name user.password) = some user.name := by
  apply Table.collect_of_unique (fun user => sunnyCredential sha256 user.name user.password) _ configured
  intro other member same
  exact unambiguous other member user configured ((sunnyCredential_eq_iff injective member configured).mp same)

/-- A presented credential is attributed as the table says. -/
theorem Server.present_watch {credential : Credential} {username : String} (self : Server) (stream : Nat)
    (rest : Bytes) (found : sunnyUsers sha256 users credential = some username) :
    (self.present (sunnyUsers sha256 users) stream credential rest).watch = some (.ok username) := by
  unfold Server.present
  rw [found]

end

/-- Two users share a credential exactly if they are hashed from one text. If no two do, as
when no name has a colon in it, every credential leads to its user, and only then; a
connection that presents it is attributed to that user. -/
theorem sunny_credentials_identify (sha256 : Bytes → Digest) (users : List User)
    (injective : Set.InjOn sha256 (sunnyInputs users)) :
    (∀ first ∈ users, ∀ second ∈ users, sunnyCredential sha256 first.name first.password =
        sunnyCredential sha256 second.name second.password ↔
      sunnyInput first.name first.password = sunnyInput second.name second.password) ∧
    ((∀ user ∈ users, sunnyUsers sha256 users (sunnyCredential sha256 user.name user.password) =
        some user.name) ↔ Unambiguous users) ∧
    ((∀ user ∈ users, ':' ∉ user.name.toList) → Unambiguous users) ∧
    (Unambiguous users → ∀ user ∈ users, ∀ (server : Server) (stream : Nat) (rest : Bytes),
      (server.present (sunnyUsers sha256 users) stream
        (sunnyCredential sha256 user.name user.password) rest).watch = some (.ok user.name)) := by
  refine ⟨?_, ⟨?_, ?_⟩, unambiguous_of_colonless, ?_⟩
  · intro first one second other
    exact sunnyCredential_eq_iff injective one other
  · intro found first one second other same
    have shared := (sunnyCredential_eq_iff injective one other).mpr same
    have names := found first one
    rw [shared, found second other] at names
    exact eq_of_sunnyInput_eq (Option.some.inj names).symm same
  · intro unambiguous user configured
    exact sunnyUsers_of_unambiguous injective unambiguous configured
  · intro unambiguous user configured server stream rest
    exact server.present_watch stream rest (sunnyUsers_of_unambiguous injective unambiguous configured)

/-- The SHA-256 digests of the inputs that occur here: `alice:secret`, `bob:hunter` and `a:b:c`. -/
def digestOf (input : Bytes) : Digest :=
  if input = asBytes "alice:secret" then
    ⟨[0x3d, 0x11, 0xdc, 0x47, 0x9c, 0x08, 0xe3, 0xb3, 0x68, 0x77, 0x31, 0x03, 0xd6, 0x47, 0x66, 0xc2,
      0xe4, 0x20, 0xce, 0x39, 0x72, 0x79, 0x32, 0xfc, 0xf2, 0xd8, 0xf4, 0xd9, 0xd5, 0x99, 0xbe, 0x59], rfl⟩
  else if input = asBytes "bob:hunter" then
    ⟨[0x5d, 0x66, 0xdf, 0xf9, 0x0f, 0xab, 0x05, 0x9f, 0x80, 0x07, 0x03, 0x5b, 0xeb, 0x84, 0x1c, 0x60,
      0xb3, 0xe6, 0x7c, 0xfd, 0xd7, 0xa1, 0xe3, 0x85, 0x28, 0xe2, 0x95, 0xee, 0x89, 0xd2, 0x6a, 0xa6], rfl⟩
  else
    ⟨[0xb0, 0xee, 0x04, 0xf8, 0x80, 0xc4, 0xff, 0x42, 0x61, 0x47, 0x9e, 0x2e, 0x78, 0x22, 0xb7, 0x41,
      0x0a, 0xee, 0x4c, 0x71, 0x59, 0xf4, 0x18, 0x5a, 0xd5, 0xb0, 0xd8, 0x8a, 0x31, 0x2b, 0x49, 0x5e], rfl⟩

theorem injOn_digestOf {users : List User} (apart : ∀ first ∈ users, ∀ second ∈ users,
      digestOf (asBytes (sunnyInput first.name first.password)) =
        digestOf (asBytes (sunnyInput second.name second.password)) →
      sunnyInput first.name first.password = sunnyInput second.name second.password) :
    Set.InjOn digestOf (sunnyInputs users) := by
  rintro _ ⟨first, one, rfl⟩ _ ⟨second, other, rfl⟩ same
  rw [apart first one second other same]

theorem sunny_credentials_identify_two :
    sunnyUsers digestOf [⟨"alice", "secret"⟩, ⟨"bob", "hunter"⟩] (sunnyCredential digestOf "alice" "secret") =
      some "alice" := by
  have injective : Set.InjOn digestOf (sunnyInputs [⟨"alice", "secret"⟩, ⟨"bob", "hunter"⟩]) :=
    injOn_digestOf (by decide)
  have ⟨_, found, colonless, _⟩ := sunny_credentials_identify digestOf _ injective
  exact found.mpr (colonless (by decide)) ⟨"alice", "secret"⟩ (by decide)

/-- Two users of one text: the later one takes the credential over. -/
theorem sunny_credential_shared : ¬ ∀ (sha256 : Bytes → Digest) (users : List User),
    Set.InjOn sha256 (sunnyInputs users) → users.Nodup → ∀ user ∈ users,
      sunnyUsers sha256 users (sunnyCredential sha256 user.name user.password) = some user.name := by
  intro every
  have injective : Set.InjOn digestOf (sunnyInputs [⟨"a:b", "c"⟩, ⟨"a", "b:c"⟩]) :=
    injOn_digestOf (by decide)
  have found := every digestOf _ injective (by decide) ⟨"a:b", "c"⟩ (by decide)
  revert found
  decide

end SingQuic.ShadowQuic

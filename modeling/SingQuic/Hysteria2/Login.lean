import SingQuic.Hysteria2.Client
import SingQuic.Hysteria2.Gate

/-! From a configured password to the user it logs in. The client hands the bytes of the
password to the HTTP library, which refuses control characters only; the server takes the
header value for text only if it is visible ASCII. -/
namespace SingQuic.Hysteria2
open Wire

/-- `HeaderValue::from_str`: a tab and every byte from the blank on, but for delete. -/
def headerValue (text : String) : Option Bytes :=
  if (asBytes text).all fun byte => (32 ≤ byte ∧ byte ≠ 127) ∨ byte = 9 then some (asBytes text)
  else none

/-- `Request::builder()..body(())`: the first value that is no header value spoils the
request. `invalid` is what the HTTP library says of it. -/
def Client.buildRequest (invalid : String) (password : String) (bandwidth : ClientBandwidth)
    (padding : String) : Result Request :=
  match headerValue password, headerValue (toString bandwidth.receiveBps), headerValue padding with
  | some auth, some receive, some padding => .ok ⟨"POST", some urlAuthority, urlPath,
      [(headerAuth, auth), (headerCcRx, receive), (headerPadding, padding)]⟩
  | _, _, _ => .error (.protocol invalid)

theorem headerValue_eq_some {text : String} {value : Bytes} (placed : headerValue text = some value) :
    value = asBytes text ∧ ∀ byte ∈ value, (32 ≤ byte ∧ byte ≠ 127) ∨ byte = 9 := by
  unfold headerValue at placed
  split at placed
  · rename_i legal
    obtain rfl := Option.some.inj placed
    exact ⟨rfl, by simpa using legal⟩
  · contradiction

theorem headerValue_of_visible {text : String} (visible : ∀ byte ∈ asBytes text, 32 ≤ byte ∧ byte < 127) :
    headerValue text = some (asBytes text) := by
  apply if_pos
  rw [List.all_eq_true]
  intro byte member
  have ⟨blank, below⟩ := visible byte member
  have other : byte ≠ 127 := UInt8.ne_of_lt below
  simpa using Or.inl ⟨blank, other⟩

/-- Of the three values only the password can spoil the request. -/
theorem Client.buildRequest_eq {password padding : String} (invalid : String) (bandwidth : ClientBandwidth)
    (placed : (headerValue password).isSome = true) (drawn : Drawn 256 2048 padding) :
    buildRequest invalid password bandwidth padding = .ok (Client.request password bandwidth padding) := by
  obtain ⟨value, auth⟩ := Option.isSome_iff_exists.mp placed
  have receive := headerValue_of_visible (asBytes_alphanum (alphanum_toString bandwidth.receiveBps))
  have filler := headerValue_of_visible (asBytes_alphanum drawn.2.2)
  rw [buildRequest, auth, receive, filler, (headerValue_eq_some auth).1]
  rfl

/-- A password in a header is read back if it is ASCII, and otherwise not at all. -/
theorem headerText_of_ascii {password : String} (placed : (headerValue password).isSome = true)
    (ascii : ∀ byte ∈ asBytes password, byte < 128) :
    headerText (asBytes password) = some password := by
  obtain ⟨value, auth⟩ := Option.isSome_iff_exists.mp placed
  obtain ⟨rfl, legal⟩ := headerValue_eq_some auth
  have visible : (asBytes password).all (fun byte => (32 ≤ byte ∧ byte < 127) ∨ byte = 9) = true := by
    rw [List.all_eq_true]
    intro byte member
    have below := UInt8.lt_iff_toNat_lt.mp (ascii byte member)
    have bound : (128 : UInt8).toNat = 128 := rfl
    rcases legal byte member with ⟨blank, other⟩ | tab
    · have different : byte.toNat ≠ 127 := fun same => other (UInt8.toNat_inj.mp same)
      have last : (127 : UInt8).toNat = 127 := rfl
      simpa using Or.inl ⟨blank, UInt8.lt_iff_toNat_lt.mpr (by omega)⟩
    · simpa using Or.inr tab
  rw [headerText, if_pos visible, fromUtf8_asBytes]

theorem headerText_of_foreign {password : String} (foreign : ¬ ∀ byte ∈ asBytes password, byte < 128) :
    headerText (asBytes password) = none := by
  apply if_neg
  intro visible
  apply foreign
  intro byte member
  have shown := List.all_eq_true.mp visible byte member
  simp only [decide_eq_true_eq] at shown
  have bound : (128 : UInt8).toNat = 128 := rfl
  rcases shown with ⟨_, below⟩ | rfl
  · have last : (127 : UInt8).toNat = 127 := rfl
    have below := UInt8.lt_iff_toNat_lt.mp below
    exact UInt8.lt_iff_toNat_lt.mpr (by omega)
  · decide

/-- With no password given twice, the map collected from the list finds every user. -/
theorem lookup_of_distinct {config : Config} (distinct : (config.users.map User.password).Nodup)
    {user : User} (configured : user ∈ config.users) : config.lookup user.password = some user.name := by
  apply Table.collect_of_unique User.password User.name configured
  intro other member same
  exact List.inj_on_of_nodup_map distinct member configured same

theorem Client.header_auth (password padding : String) (bandwidth : ClientBandwidth) :
    (Client.request password bandwidth padding).header headerAuth = some (asBytes password) := by
  simp [Client.request, Request.header]

/-- A configured user whose password the client can send is found by it exactly if the
password is ASCII, and what is found is who is logged in. -/
theorem configured_user_login_iff (config : Config) (user : User) (invalid padding : String)
    (bandwidth : ClientBandwidth) (distinct : (config.users.map User.password).Nodup)
    (configured : user ∈ config.users) (placed : (headerValue user.password).isSome = true)
    (drawn : Drawn 256 2048 padding) :
    ∃ request, Client.buildRequest invalid user.password bandwidth padding = .ok request ∧
      config.authenticate request = ((request.header headerAuth).bind headerText).bind config.lookup ∧
      (((request.header headerAuth).bind headerText).bind config.lookup = some user.name ↔
        ∀ byte ∈ asBytes user.password, byte < 128) := by
  refine ⟨_, Client.buildRequest_eq invalid bandwidth placed drawn, ?_, ?_⟩
  · rw [Config.authenticate]
    exact if_pos ⟨rfl, rfl, rfl⟩
  · rw [Client.header_auth, Option.bind_some]
    by_cases ascii : ∀ byte ∈ asBytes user.password, byte < 128
    · rw [headerText_of_ascii placed ascii, Option.bind_some]
      exact iff_of_true (lookup_of_distinct distinct configured) ascii
    · rw [headerText_of_foreign ascii, Option.bind_none]
      exact iff_of_false (by simp) ascii

/-- A server with one user. -/
def oneUser (user : User) : Config :=
  ⟨[user], ⟨0, 0, false⟩, ⟨.v4 ⟨[10, 0, 0, 3], rfl⟩, 0⟩, 64⟩

theorem drawn_filler : Drawn 256 2048 (String.ofList (List.replicate 256 'x')) := by
  rw [Drawn, String.toList_ofList, List.length_replicate]
  refine ⟨by decide, by decide, ?_⟩
  intro c member
  obtain rfl := List.eq_of_mem_replicate member
  decide

/-- One user with an ASCII password. -/
theorem configured_user_login_iff_ascii :
    ∃ request, Client.buildRequest "" "r" ⟨0, 0⟩ (String.ofList (List.replicate 256 'x')) = .ok request ∧
      (oneUser ⟨"s", "r"⟩).authenticate request = some "s" := by
  obtain ⟨request, built, passed, found⟩ := configured_user_login_iff (oneUser ⟨"s", "r"⟩) ⟨"s", "r"⟩ ""
    (String.ofList (List.replicate 256 'x')) ⟨0, 0⟩ (List.nodup_singleton _) (List.mem_singleton_self _)
    (by decide) drawn_filler
  refine ⟨request, built, passed.trans (found.mpr ?_)⟩
  intro byte member
  obtain rfl : byte = 0x72 := List.mem_singleton.mp member
  decide

/-- A password with an accent is sent but never found. -/
theorem configured_user_not_found : ¬ ∀ (config : Config) (user : User) (invalid padding : String)
    (bandwidth : ClientBandwidth), (config.users.map User.password).Nodup → user ∈ config.users →
    (headerValue user.password).isSome = true → Drawn 256 2048 padding →
    ∃ request, Client.buildRequest invalid user.password bandwidth padding = .ok request ∧
      ((request.header headerAuth).bind headerText).bind config.lookup = some user.name := by
  intro every
  have placed : (headerValue "é").isSome = true := by decide
  obtain ⟨request, built, found⟩ := every (oneUser ⟨"s", "é"⟩) ⟨"s", "é"⟩ "" _ ⟨0, 0⟩
    (List.nodup_singleton _) (List.mem_singleton_self _) placed drawn_filler
  rw [Client.buildRequest_eq _ _ placed drawn_filler] at built
  obtain rfl := Except.ok.inj built
  have foreign : ¬ ∀ byte ∈ asBytes "é", byte < 128 := fun ascii => absurd (ascii 0xc3 (by decide)) (by decide)
  rw [Client.header_auth, Option.bind_some, headerText_of_foreign foreign] at found
  exact Option.some_ne_none _ found.symm

end SingQuic.Hysteria2

import SingQuic.Address

/-! Header fields and the static table that both ends know. The table is written three times in
the source: as a list, as a search for a field and as a search for a name. -/
namespace SingQuic.Qpack
open Wire

structure HeaderField where
  name : Bytes
  value : Bytes
  deriving DecidableEq, Repr

def estimatedOverheadBytes : Nat := 32

namespace HeaderField

def memSize (self : HeaderField) : Nat := self.name.length + self.value.length + estimatedOverheadBytes

def withValue (self : HeaderField) (value : Bytes) : HeaderField := { self with value }

end HeaderField

namespace StaticTable

def predefinedHeaders : List (String × String) := [
  (":authority", ""), (":path", "/"), ("age", "0"), ("content-disposition", ""),
  ("content-length", "0"), ("cookie", ""), ("date", ""), ("etag", ""), ("if-modified-since", ""),
  ("if-none-match", ""), ("last-modified", ""), ("link", ""), ("location", ""), ("referer", ""),
  ("set-cookie", ""), (":method", "CONNECT"), (":method", "DELETE"), (":method", "GET"),
  (":method", "HEAD"), (":method", "OPTIONS"), (":method", "POST"), (":method", "PUT"),
  (":scheme", "http"), (":scheme", "https"), (":status", "103"), (":status", "200"), (":status", "304"),
  (":status", "404"), (":status", "503"), ("accept", "*/*"), ("accept", "application/dns-message"),
  ("accept-encoding", "gzip, deflate, br"), ("accept-ranges", "bytes"),
  ("access-control-allow-headers", "cache-control"), ("access-control-allow-headers", "content-type"),
  ("access-control-allow-origin", "*"), ("cache-control", "max-age=0"),
  ("cache-control", "max-age=2592000"), ("cache-control", "max-age=604800"),
  ("cache-control", "no-cache"), ("cache-control", "no-store"),
  ("cache-control", "public, max-age=31536000"), ("content-encoding", "br"),
  ("content-encoding", "gzip"), ("content-type", "application/dns-message"),
  ("content-type", "application/javascript"), ("content-type", "application/json"),
  ("content-type", "application/x-www-form-urlencoded"), ("content-type", "image/gif"),
  ("content-type", "image/jpeg"), ("content-type", "image/png"), ("content-type", "text/css"),
  ("content-type", "text/html; charset=utf-8"), ("content-type", "text/plain"),
  ("content-type", "text/plain;charset=utf-8"), ("range", "bytes=0-"),
  ("strict-transport-security", "max-age=31536000"),
  ("strict-transport-security", "max-age=31536000; includesubdomains"),
  ("strict-transport-security", "max-age=31536000; includesubdomains; preload"),
  ("vary", "accept-encoding"), ("vary", "origin"), ("x-content-type-options", "nosniff"),
  ("x-xss-protection", "1; mode=block"), (":status", "100"), (":status", "204"), (":status", "206"),
  (":status", "302"), (":status", "400"), (":status", "403"), (":status", "421"), (":status", "425"),
  (":status", "500"), ("accept-language", ""), ("access-control-allow-credentials", "FALSE"),
  ("access-control-allow-credentials", "TRUE"), ("access-control-allow-headers", "*"),
  ("access-control-allow-methods", "get"), ("access-control-allow-methods", "get, post, options"),
  ("access-control-allow-methods", "options"), ("access-control-expose-headers", "content-length"),
  ("access-control-request-headers", "content-type"), ("access-control-request-method", "get"),
  ("access-control-request-method", "post"), ("alt-svc", "clear"), ("authorization", ""),
  ("content-security-policy", "script-src 'none'; object-src 'none'; base-uri 'none'"),
  ("early-data", "1"), ("expect-ct", ""), ("forwarded", ""), ("if-range", ""), ("origin", ""),
  ("purpose", "prefetch"), ("server", ""), ("timing-allow-origin", "*"),
  ("upgrade-insecure-requests", "1"), ("user-agent", ""), ("x-forwarded-for", ""),
  ("x-frame-options", "deny"), ("x-frame-options", "sameorigin")]

/-- The arms of `find`. -/
def findArms : List ((String × String) × Nat) := [
  ((":authority", ""), 0), ((":path", "/"), 1), (("age", "0"), 2), (("content-disposition", ""), 3),
  (("content-length", "0"), 4), (("cookie", ""), 5), (("date", ""), 6), (("etag", ""), 7),
  (("if-modified-since", ""), 8), (("if-none-match", ""), 9), (("last-modified", ""), 10),
  (("link", ""), 11), (("location", ""), 12), (("referer", ""), 13), (("set-cookie", ""), 14),
  ((":method", "CONNECT"), 15), ((":method", "DELETE"), 16), ((":method", "GET"), 17),
  ((":method", "HEAD"), 18), ((":method", "OPTIONS"), 19), ((":method", "POST"), 20),
  ((":method", "PUT"), 21), ((":scheme", "http"), 22), ((":scheme", "https"), 23),
  ((":status", "103"), 24), ((":status", "200"), 25), ((":status", "304"), 26),
  ((":status", "404"), 27), ((":status", "503"), 28), (("accept", "*/*"), 29),
  (("accept", "application/dns-message"), 30), (("accept-encoding", "gzip, deflate, br"), 31),
  (("accept-ranges", "bytes"), 32), (("access-control-allow-headers", "cache-control"), 33),
  (("access-control-allow-headers", "content-type"), 34), (("access-control-allow-origin", "*"), 35),
  (("cache-control", "max-age=0"), 36), (("cache-control", "max-age=2592000"), 37),
  (("cache-control", "max-age=604800"), 38), (("cache-control", "no-cache"), 39),
  (("cache-control", "no-store"), 40), (("cache-control", "public, max-age=31536000"), 41),
  (("content-encoding", "br"), 42), (("content-encoding", "gzip"), 43),
  (("content-type", "application/dns-message"), 44), (("content-type", "application/javascript"), 45),
  (("content-type", "application/json"), 46),
  (("content-type", "application/x-www-form-urlencoded"), 47), (("content-type", "image/gif"), 48),
  (("content-type", "image/jpeg"), 49), (("content-type", "image/png"), 50),
  (("content-type", "text/css"), 51), (("content-type", "text/html; charset=utf-8"), 52),
  (("content-type", "text/plain"), 53), (("content-type", "text/plain;charset=utf-8"), 54),
  (("range", "bytes=0-"), 55), (("strict-transport-security", "max-age=31536000"), 56),
  (("strict-transport-security", "max-age=31536000; includesubdomains"), 57),
  (("strict-transport-security", "max-age=31536000; includesubdomains; preload"), 58),
  (("vary", "accept-encoding"), 59), (("vary", "origin"), 60),
  (("x-content-type-options", "nosniff"), 61), (("x-xss-protection", "1; mode=block"), 62),
  ((":status", "100"), 63), ((":status", "204"), 64), ((":status", "206"), 65),
  ((":status", "302"), 66), ((":status", "400"), 67), ((":status", "403"), 68),
  ((":status", "421"), 69), ((":status", "425"), 70), ((":status", "500"), 71),
  (("accept-language", ""), 72), (("access-control-allow-credentials", "FALSE"), 73),
  (("access-control-allow-credentials", "TRUE"), 74), (("access-control-allow-headers", "*"), 75),
  (("access-control-allow-methods", "get"), 76),
  (("access-control-allow-methods", "get, post, options"), 77),
  (("access-control-allow-methods", "options"), 78),
  (("access-control-expose-headers", "content-length"), 79),
  (("access-control-request-headers", "content-type"), 80),
  (("access-control-request-method", "get"), 81), (("access-control-request-method", "post"), 82),
  (("alt-svc", "clear"), 83), (("authorization", ""), 84),
  (("content-security-policy", "script-src 'none'; object-src 'none'; base-uri 'none'"), 85),
  (("early-data", "1"), 86), (("expect-ct", ""), 87), (("forwarded", ""), 88), (("if-range", ""), 89),
  (("origin", ""), 90), (("purpose", "prefetch"), 91), (("server", ""), 92),
  (("timing-allow-origin", "*"), 93), (("upgrade-insecure-requests", "1"), 94),
  (("user-agent", ""), 95), (("x-forwarded-for", ""), 96), (("x-frame-options", "deny"), 97),
  (("x-frame-options", "sameorigin"), 98)]

/-- The arms of `find_name`. -/
def findNameArms : List (String × Nat) := [
  (":authority", 0), (":path", 1), ("age", 2), ("content-disposition", 3), ("content-length", 4),
  ("cookie", 5), ("date", 6), ("etag", 7), ("if-modified-since", 8), ("if-none-match", 9),
  ("last-modified", 10), ("link", 11), ("location", 12), ("referer", 13), ("set-cookie", 14),
  (":method", 15), (":scheme", 22), (":status", 24), ("accept", 29), ("accept-encoding", 31),
  ("accept-ranges", 32), ("access-control-allow-headers", 33), ("access-control-allow-origin", 35),
  ("cache-control", 36), ("content-encoding", 42), ("content-type", 44), ("range", 55),
  ("strict-transport-security", 56), ("vary", 59), ("x-content-type-options", 61),
  ("x-xss-protection", 62), ("accept-language", 72), ("access-control-allow-credentials", 73),
  ("access-control-allow-methods", 76), ("access-control-expose-headers", 79),
  ("access-control-request-headers", 80), ("access-control-request-method", 81), ("alt-svc", 83),
  ("authorization", 84), ("content-security-policy", 85), ("early-data", 86), ("expect-ct", 87),
  ("forwarded", 88), ("if-range", 89), ("origin", 90), ("purpose", 91), ("server", 92),
  ("timing-allow-origin", 93), ("upgrade-insecure-requests", 94), ("user-agent", 95),
  ("x-forwarded-for", 96), ("x-frame-options", 97)]

def entry (header : String × String) : HeaderField := ⟨asBytes header.1, asBytes header.2⟩

inductive Error where
  | unknown (index : Nat)
  deriving DecidableEq, Repr

def get (index : Nat) : Except Error HeaderField :=
  match predefinedHeaders[index]? with
  | some header => .ok (entry header)
  | none => .error (.unknown index)

def find (field : HeaderField) : Option Nat :=
  (findArms.find? fun arm => entry arm.1 = field).map Prod.snd

def findName (name : Bytes) : Option Nat :=
  (findNameArms.find? fun arm => asBytes arm.1 = name).map Prod.snd

theorem length_predefinedHeaders : predefinedHeaders.length = 99 := rfl

/-- The search for a field goes through the whole table, in its order. -/
theorem findArms_eq : findArms = predefinedHeaders.zipIdx := rfl

/-- What the search for a field finds is that field. -/
theorem get_of_find {field : HeaderField} {index : Nat} (found : find field = some index) :
    get index = .ok field ∧ index < 99 := by
  obtain ⟨arm, searched, rfl⟩ := Option.map_eq_some_iff.mp found
  have same := List.find?_some searched
  have member := List.mem_of_find?_eq_some searched
  rw [findArms_eq, List.mem_zipIdx_iff_getElem?] at member
  obtain ⟨bound, -⟩ := List.getElem?_eq_some_iff.mp member
  rw [get, member]
  exact ⟨congrArg Except.ok (by simpa using same), length_predefinedHeaders ▸ bound⟩

/-- What the search for a name finds is a field of that name. -/
theorem get_of_findName {name : Bytes} {index : Nat} (found : findName name = some index) :
    ∃ value, get index = .ok ⟨name, value⟩ ∧ index < 99 := by
  obtain ⟨arm, searched, rfl⟩ := Option.map_eq_some_iff.mp found
  have same := List.find?_some searched
  obtain ⟨⟨header, listed, named⟩, bound⟩ := (by decide +kernel : ∀ arm ∈ findNameArms,
    (∃ header ∈ predefinedHeaders[arm.2]?, header.1 = arm.1) ∧ arm.2 < 99)
    arm (List.mem_of_find?_eq_some searched)
  have name : asBytes header.1 = name := by
    rw [named]
    simpa using same
  refine ⟨asBytes header.2, ?_, bound⟩
  rw [get, listed, ← name]
  rfl

end StaticTable
end SingQuic.Qpack

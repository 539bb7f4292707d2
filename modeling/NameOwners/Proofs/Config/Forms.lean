import NameOwners.Config.Reader
import NameOwners.Proofs.Address.Reading
import NameOwners.Proofs.Json.RecordText

/-!
The texts of a configuration (`Config.IsText`). Both records in it, and the
configuration itself, may be an object with its entries in any order and unknown keys
among them, or an array; strings may have escapes, and what has its default value may be
left out. The printed text is one of them, and all of them are read as the configuration
that they are texts of. So no text is one of two configurations (`Config.eq_of_isText`).
-/

namespace NameOwners

open Json (RecordPart IsRecordText IsListText IsStringText)
open Json.Reader (Reads)

/-! ### Texts of a configuration -/

def IsAddressText : Option SocketAddress → List Char → Prop
  | some x, cs => IsStringText x.text cs
  | none, cs => cs = ['n', 'u', 'l', 'l']

/-- A whole number in decimal. It has no other form: with a fraction or an exponent it would
not be whole. -/
def IsWordText (n : UInt32) (cs : List Char) : Prop :=
  cs = Nat.toDigits 10 n.toNat

/-- The parts of each record, in the order that they have in an array. -/
def ResolverConfig.parts : List (RecordPart ResolverConfig) := [
  ⟨"namespaces", List String, namespaces, IsListText IsStringText⟩,
  ⟨"min_ttl", UInt32, minTtl, IsWordText⟩,
  ⟨"failure_threshold", UInt32, failureThreshold, IsWordText⟩]

def ResolverConfig.IsText (c : ResolverConfig) : List Char → Prop :=
  IsRecordText parts {} c

def TelemetryConfig.parts : List (RecordPart TelemetryConfig) := [
  ⟨"log_level", String, logLevel, IsStringText⟩,
  ⟨"prometheus_addr", Option SocketAddress, metricsAddress, IsAddressText⟩]

def TelemetryConfig.IsText (c : TelemetryConfig) : List Char → Prop :=
  IsRecordText parts {} c

def Config.parts : List (RecordPart Config) := [
  ⟨"resolver", ResolverConfig, resolver, ResolverConfig.IsText⟩,
  ⟨"telemetry", TelemetryConfig, telemetry, TelemetryConfig.IsText⟩]

/-- A text of a configuration, with blanks around it. -/
def Config.IsText (c : Config) (text : String) : Prop :=
  ∃ p : Json.Padded, text.toList = p.chars ∧ IsRecordText parts {} c p.core

/-! ### Readers of the parts -/

theorem reads_readMetricsAddress {x : Option SocketAddress} {cs : List Char}
    (h : IsAddressText x cs) : Reads readMetricsAddress cs x := by
  cases x with
  | none =>
      obtain rfl : cs = ['n', 'u', 'l', 'l'] := h
      refine ⟨⟨'n', rfl, by decide⟩, fun before rest _ => ?_⟩
      exact Json.Reader.peek_bind_blanks _ before _
  | some x =>
      have hstring : IsStringText x.text cs := h
      refine ⟨⟨'"', hstring.head?_eq, by decide⟩, fun before rest hrest => ?_⟩
      have hread := (hstring.reads "socket address").eq_ok .none hrest
      obtain ⟨body, rfl, -⟩ := hstring
      refine (Json.Reader.peek_bind_blanks _ before _).trans ?_
      refine Json.Reader.bind_eq_ok_iff.2 ⟨some '"', _, rfl,
        Json.Reader.bind_eq_ok_iff.2 ⟨x.text, rest, hread, ?_⟩⟩
      rw [SocketAddress.read?_text]
      rfl

theorem reads_readWord {n : UInt32} {cs : List Char} (h : IsWordText n cs) :
    Reads readWord cs n := by
  obtain rfl : cs = Nat.toDigits 10 n.toNat := h
  have hread := (Json.reads_boundedNumber "u32" n.toNat_lt (by decide)).map Nat.toUInt32
  rwa [show n.toNat.toUInt32 = n from UInt32.ofNat_toNat] at hread

theorem ResolverConfig.isReaderOf : Json.IsReaderOf fields parts where
  reads := by
    refine .cons ⟨rfl, fun s ns cs h => ?_⟩ (.cons ⟨rfl, fun s n cs h => ?_⟩
      (.cons ⟨rfl, fun s n cs h => ?_⟩ .nil))
    · refine ⟨{ s with namespaces := ns }, ?_, rfl, by simp [parts]⟩
      exact (Json.reads_listValue (fun _ _ h => IsStringText.reads h "a string") h).map _
    · exact ⟨{ s with minTtl := n }, (reads_readWord h).map _, rfl, by simp [parts]⟩
    · exact ⟨{ s with failureThreshold := n }, (reads_readWord h).map _, rfl, by simp [parts]⟩
  nodup_keys := by simp [parts]
  ext s t h := by
    simp only [parts, List.forall_mem_cons] at h
    obtain ⟨hnamespaces, hminTtl, hfailureThreshold, -⟩ := h
    cases s
    cases t
    simp_all

theorem TelemetryConfig.isReaderOf : Json.IsReaderOf fields parts where
  reads := by
    refine .cons ⟨rfl, fun s level cs h => ?_⟩ (.cons ⟨rfl, fun s x cs h => ?_⟩ .nil)
    · exact ⟨{ s with logLevel := level }, (IsStringText.reads h "a string").map _, rfl,
        by simp [parts]⟩
    · exact ⟨{ s with metricsAddress := x }, (reads_readMetricsAddress h).map _, rfl,
        by simp [parts]⟩
  nodup_keys := by simp [parts]
  ext s t h := by
    simp only [parts, List.forall_mem_cons] at h
    obtain ⟨hlogLevel, hmetricsAddress, -⟩ := h
    cases s
    cases t
    simp_all

theorem Config.isReaderOf : Json.IsReaderOf fields parts where
  reads := by
    refine .cons ⟨rfl, fun s r cs h => ?_⟩ (.cons ⟨rfl, fun s t cs h => ?_⟩ .nil)
    · exact ⟨{ s with resolver := r },
        (Json.reads_record ResolverConfig.isReaderOf h _).map _, rfl, by simp [parts]⟩
    · exact ⟨{ s with telemetry := t },
        (Json.reads_record TelemetryConfig.isReaderOf h _).map _, rfl, by simp [parts]⟩
  nodup_keys := by simp [parts]
  ext s t h := by
    simp only [parts, List.forall_mem_cons] at h
    obtain ⟨hresolver, htelemetry, -⟩ := h
    cases s
    cases t
    simp_all

/-! ### Printed configurations -/

theorem ResolverConfig.isText_chars (c : ResolverConfig) : c.IsText (Json.chars c.toJson) := by
  have hword (n : UInt32) : IsWordText n (Json.chars (.nat n.toNat)) := Json.chars_nat n.toNat
  refine Json.isRecordText_chars ?_ _
  refine .cons ⟨rfl, ?_⟩ (.cons ⟨rfl, ?_⟩ (.cons ⟨rfl, ?_⟩ .nil))
  · exact Json.isListText_chars Json.isStringText_stringChars c.namespaces
  · exact hword c.minTtl
  · exact hword c.failureThreshold

theorem TelemetryConfig.isText_chars (c : TelemetryConfig) : c.IsText (Json.chars c.toJson) := by
  obtain ⟨level, address⟩ := c
  refine Json.isRecordText_chars ?_ _
  refine .cons ⟨rfl, ?_⟩ (.cons ⟨rfl, ?_⟩ .nil)
  · exact Json.isStringText_stringChars level
  · cases address with
    | none => exact (rfl : ['n', 'u', 'l', 'l'] = ['n', 'u', 'l', 'l'])
    | some x => exact Json.isStringText_stringChars x.text

theorem Config.isText_render (c : Config) : c.IsText c.toJson.render := by
  refine ⟨.plain (Json.chars c.toJson), ?_, ?_⟩
  · rw [Json.Padded.chars_plain, Json.render, String.toList_ofList]
  · refine Json.isRecordText_chars ?_ _
    refine .cons ⟨rfl, ?_⟩ (.cons ⟨rfl, ?_⟩ .nil)
    · exact c.resolver.isText_chars
    · exact c.telemetry.isText_chars

/-! ### Reading -/

theorem Config.read_of_isText {c : Config} {text : String} (h : c.IsText text) :
    Config.read text = .ok c := by
  obtain ⟨p, htext, hcore⟩ := h
  have hread := (Json.reads_record Config.isReaderOf hcore "struct Config").padded Json.ends_nil
  rw [List.append_nil, ← htext] at hread
  have hblank := p.after.dropWhile_append []
  exact Json.Reader.run_eq_ok_iff.2 ⟨_, hread, hblank⟩

/-- No text is one of two configurations. -/
theorem Config.eq_of_isText {c d : Config} {text : String} (hc : c.IsText text)
    (hd : d.IsText text) : c = d :=
  Except.ok.inj ((Config.read_of_isText hc).symm.trans (Config.read_of_isText hd))

/-- A configuration is read back from the text that it is printed as, and from every other
of its texts: with the entries of each record in any order, with entries under unknown
keys among them, with a record as an array of its parts, and without what has its
default value. -/
theorem Config.reads_back_however_written (c : Config) :
    Config.read c.toJson.render = .ok c ∧ c.IsText c.toJson.render ∧
      ∀ text, c.IsText text → Config.read text = .ok c := by
  have hprinted := c.isText_render
  exact ⟨Config.read_of_isText hprinted, hprinted, fun _ => Config.read_of_isText⟩

/-- The parts are in another order, one of them is an array, most values are left out, an
unknown key has an escape in it, and its value is no number that could be read. -/
theorem Config.reads_back_however_written_of_rearranged :
    let address : AddressV6 := ⟨[0xfe80, 0, 0, 0, 0, 0, 0, 1], rfl⟩
    let c : Config := ⟨{ minTtl := 30 }, { metricsAddress := some (.v6 address 3 9090) }⟩
    let text := "\x7b\"telemetry\":[\"info\",\"[fe80::1%3]:9090\"],\"\\u0078\":[null, 1e999]," ++
      "\"resolver\": \x7b\"min_ttl\":30\x7d\x7d\n"
    c.IsText text ∧ Config.read text = .ok c := by
  intro address c text
  let blank : Json.Blanks := ⟨[' '], List.forall_mem_singleton.2 rfl⟩
  let line : Json.Blanks := ⟨['\n'], List.forall_mem_singleton.2 rfl⟩
  let word (s : String) : Json.Padded := .plain (Json.stringChars s)
  have hword (s : String) : IsStringText s (word s).core := Json.isStringText_stringChars s
  -- The telemetry is an array with both of its parts.
  let telemetry := Json.arrayText .none [word "info", word "[fe80::1%3]:9090"]
  have htelemetry : c.telemetry.IsText telemetry :=
    .array .none (List.append_nil _).symm (.cons (hword _) (.cons (hword _) .nil)) nofun
  -- The resolver is an object with one of its parts.
  let limit : Json.Entry := ⟨word "min_ttl", .plain ['3', '0']⟩
  have hlimit : IsWordText 30 ['3', '0'] := show ['3', '0'] = Nat.toDigits 10 30 by decide
  let resolver := Json.objectText .none [limit]
  have hresolver : c.resolver.IsText resolver :=
    @Json.IsRecordText.object _ ResolverConfig.parts {} c.resolver .none [limit] []
      [(ResolverConfig.parts[1], limit)] [ResolverConfig.parts[0], ResolverConfig.parts[2]]
      (.swap _ _ _) (.refl _) (List.forall_mem_singleton.2 ⟨hword _, hlimit⟩)
      (by simp [ResolverConfig.parts, c]) nofun
  -- The value of the unknown key is an array of two values.
  let unknown := Json.arrayText .none
    [.plain ['n', 'u', 'l', 'l'], ⟨blank, ['1', 'e', '9', '9', '9'], .none⟩]
  have hdigits (cs : List Char) (h : cs ≠ []) (hall : cs.all Json.Scan.isDigit) :
      Json.IsDigits cs := ⟨h, List.all_eq_true.1 hall⟩
  have hnumber : Json.IsNumber ['1', 'e', '9', '9', '9'] :=
    @Json.IsNumber.intro [] ['1'] [] ['e', '9', '9', '9'] (by simp) (hdigits _ nofun rfl) nofun
      .absent (@Json.IsExponent.mark 'e' [] ['9', '9', '9'] (by simp) (by simp)
        (hdigits _ nofun rfl))
  have hunknown : Json.IsText unknown :=
    .array .none (List.forall_mem_cons.2 ⟨.null, List.forall_mem_singleton.2 (.number hnumber)⟩)
  have hkey : IsStringText "x" ['"', '\\', 'u', '0', '0', '7', '8', '"'] :=
    ⟨['\\', 'u', '0', '0', '7', '8'], rfl,
      .numeric ⟨List.all_eq_true.1 rfl, rfl⟩ (by decide) .nil⟩
  let entries : List Json.Entry := [⟨word "telemetry", .plain telemetry⟩,
    ⟨.plain ['"', '\\', 'u', '0', '0', '7', '8', '"'], .plain unknown⟩,
    ⟨word "resolver", ⟨blank, resolver, .none⟩⟩]
  have hcore : IsRecordText Config.parts {} c (Json.objectText .none entries) := by
    refine @Json.IsRecordText.object _ Config.parts {} c .none entries [entries[1]]
      [(Config.parts[1], entries[0]), (Config.parts[0], entries[2])] []
      (.swap _ _ _) (.cons _ (.swap _ _ _)) ?_ nofun ?_
    · exact List.forall_mem_cons.2 ⟨⟨hword _, htelemetry⟩,
        List.forall_mem_singleton.2 ⟨hword _, hresolver⟩⟩
    · exact List.forall_mem_singleton.2 ⟨"x", hkey, by simp [Config.parts], hunknown⟩
  have htext : c.IsText text := ⟨⟨.none, Json.objectText .none entries, line⟩, by decide, hcore⟩
  exact ⟨htext, (Config.reads_back_however_written c).2.2 text htext⟩

end NameOwners

import Mathlib

/-!
# Loading the configuration

`util/Env` and `util/Config`: the server reads its port, its TLS switch and the two TLS files from
the environment.  The port goes through `std::stoi`, which skips blanks, takes an optional sign and
the digits after it, ignores whatever follows them, and throws when there are no digits or when the
number does not fit an `int`; the `int` is then cut down to sixteen bits.

`loadConfig_iff` says for which environments the server comes up, and with which configuration.
-/

namespace BuzzWeb
namespace Util

/-- What `std::getenv` knows. -/
abbrev Environment := String → Option String

/-- The exceptions `LoadConfig` may end with. -/
inductive ConfigError where
  | getenvError
  | invalidArgument
  | outOfRange
deriving DecidableEq, Repr

def getEnv (environment : Environment) (env : String) : Except ConfigError String :=
  match environment env with
  | some value => .ok value
  | none => .error .getenvError

def getEnvOptional (environment : Environment) (env : String) : Option String :=
  environment env

/-! ## `std::stoi` -/

/-- `std::isspace` in the C locale. -/
def isSpace (c : Char) : Bool :=
  c = ' ' || c = '\t' || c = '\n' || c = '\x0b' || c = '\x0c' || c = '\r'

/-- An optional sign: is it a minus, and what follows it. -/
def takeSign : List Char → Bool × List Char
  | '-' :: rest => (true, rest)
  | '+' :: rest => (false, rest)
  | rest => (false, rest)

/-- The number that a sign and digits stand for. -/
def signedValue (negative : Bool) (digits : List Char) : Int :=
  if negative then -(Nat.ofDigitChars 10 digits 0) else Nat.ofDigitChars 10 digits 0

/-- The number fits an `int`. -/
def FitsInt (n : Int) : Prop :=
  -2 ^ 31 ≤ n ∧ n < 2 ^ 31

instance (n : Int) : Decidable (FitsInt n) :=
  inferInstanceAs (Decidable (_ ∧ _))

/-- `std::stoi` in base ten. -/
def stoi (text : String) : Except ConfigError Int :=
  let signed := takeSign (text.toList.dropWhile isSpace)
  let digits := signed.2.takeWhile Char.isDigit
  if digits = [] then .error .invalidArgument
  else
    let value := signedValue signed.1 digits
    if FitsInt value then .ok value else .error .outOfRange

/-! ## `LoadConfig` -/

/-- `net::ServerConfig`. -/
structure ServerConfig where
  port : UInt16
  certificateFile : String
  privateKeyFile : String
  tlsEnabled : Bool
deriving DecidableEq, Repr

def defaultPort : UInt16 := 9291

/-- TLS is on unless the switch holds one of three texts. -/
def tlsRequired (environment : Environment) : Bool :=
  match getEnvOptional environment "BUZZWEB_TLS_ENABLED" with
  | some value => !(value = "0" || value = "FALSE" || value = "false")
  | none => true

def loadPort (environment : Environment) : Except ConfigError UInt16 :=
  match getEnvOptional environment "BUZZWEB_SERVER_PORT" with
  | some text => do
      let port ← stoi text
      pure (UInt16.ofInt port)
  | none => pure defaultPort

def loadConfig (environment : Environment) : Except ConfigError ServerConfig := do
  let port ← loadPort environment
  if tlsRequired environment then
    let certPath ← getEnv environment "BUZZWEB_CERTIFICATE_FILE_PATH"
    let privateKey ← getEnv environment "BUZZWEB_PRIVATE_KEY_PATH"
    pure ⟨port, certPath, privateKey, true⟩
  else
    pure ⟨port, "", "", false⟩

/-! ## The texts `std::stoi` accepts -/

/-- A text whose number is `n`: blanks, a sign, digits, and a rest that does not go on with a
digit. -/
structure Numeral (text : List Char) (n : Int) : Prop where
  reads : ∃ blanks sign digits rest, text = blanks ++ (sign ++ (digits ++ rest)) ∧
    (∀ c ∈ blanks, isSpace c = true) ∧ digits ≠ [] ∧ (∀ c ∈ digits, c.isDigit = true) ∧
    (∀ c, rest.head? = some c → c.isDigit = false) ∧
    ((sign = ['-'] ∧ n = signedValue true digits) ∨
      ((sign = [] ∨ sign = ['+']) ∧ n = signedValue false digits))

theorem isSpace_eq_false_of_isDigit {c : Char} (h : c.isDigit = true) : isSpace c = false := by
  by_contra hspace
  have hcases : isSpace c = true := by simpa using hspace
  simp only [isSpace, Bool.or_eq_true, decide_eq_true_eq] at hcases
  rcases hcases with ((((rfl | rfl) | rfl) | rfl) | rfl) | rfl <;> exact absurd h (by decide)

/-- A digit is not taken for a sign. -/
theorem takeSign_of_digit {c : Char} (h : c.isDigit = true) (rest : List Char) :
    takeSign (c :: rest) = (false, c :: rest) := by
  unfold takeSign
  split
  · next hsame =>
      obtain ⟨rfl, -⟩ := List.cons_eq_cons.mp hsame
      cases h
  · next hsame =>
      obtain ⟨rfl, -⟩ := List.cons_eq_cons.mp hsame
      cases h
  · rfl

/-- What is taken for a sign is one. -/
theorem takeSign_spec (text : List Char) :
    ∃ sign, text = sign ++ (takeSign text).2 ∧
      (((takeSign text).1 = true ∧ sign = ['-']) ∨
        ((takeSign text).1 = false ∧ (sign = [] ∨ sign = ['+']))) := by
  unfold takeSign
  split
  · exact ⟨['-'], rfl, Or.inl ⟨rfl, rfl⟩⟩
  · exact ⟨['+'], rfl, Or.inr ⟨rfl, Or.inr rfl⟩⟩
  · exact ⟨[], rfl, Or.inr ⟨rfl, Or.inl rfl⟩⟩

/-- Blanks are skipped up to something that is not one. -/
theorem dropWhile_blanks {blanks rest : List Char} (hblanks : ∀ c ∈ blanks, isSpace c = true)
    (hrest : ∀ c, rest.head? = some c → isSpace c = false) :
    (blanks ++ rest).dropWhile isSpace = rest := by
  rw [List.dropWhile_append_of_pos hblanks]
  cases rest with
  | nil => rfl
  | cons c rest => exact List.dropWhile_cons_of_neg (by simp [hrest c rfl])

/-- Digits are taken up to something that is not one. -/
theorem takeWhile_digits {digits rest : List Char} (hdigits : ∀ c ∈ digits, c.isDigit = true)
    (hrest : ∀ c, rest.head? = some c → c.isDigit = false) :
    (digits ++ rest).takeWhile Char.isDigit = digits := by
  rw [List.takeWhile_append_of_pos hdigits]
  cases rest with
  | nil => simp
  | cons c rest => rw [List.takeWhile_cons_of_neg (by simp [hrest c rfl]), List.append_nil]

/-- `std::stoi` accepts exactly the numerals whose number fits an `int`. -/
theorem stoi_ok_iff (text : String) (n : Int) :
    stoi text = .ok n ↔ Numeral text.toList n ∧ FitsInt n := by
  constructor
  · intro hok
    simp only [stoi] at hok
    split_ifs at hok with hdigits hfits
    obtain rfl := Except.ok.inj hok
    obtain ⟨sign, hsplit, hsign⟩ := takeSign_spec (text.toList.dropWhile isSpace)
    refine ⟨⟨text.toList.takeWhile isSpace, sign, _,
      (takeSign (text.toList.dropWhile isSpace)).2.dropWhile Char.isDigit, ?_, ?_, hdigits, ?_, ?_,
      ?_⟩, hfits⟩
    · rw [List.takeWhile_append_dropWhile, ← hsplit, List.takeWhile_append_dropWhile]
    · exact fun c hmem => List.mem_takeWhile_imp hmem
    · exact fun c hmem => List.mem_takeWhile_imp hmem
    · intro c hhead
      have hnot := List.head?_dropWhile_not Char.isDigit
        (takeSign (text.toList.dropWhile isSpace)).2
      rw [hhead] at hnot
      simpa using hnot
    · rcases hsign with ⟨hminus, rfl⟩ | ⟨hplus, hform⟩
      · exact Or.inl ⟨rfl, by rw [hminus]⟩
      · exact Or.inr ⟨hform, by rw [hplus]⟩
  · rintro ⟨⟨blanks, sign, digits, rest, htext, hblanks, hsome, hdigits, hrest, hsign⟩, hfits⟩
    obtain ⟨first, more, rfl⟩ := List.exists_cons_of_ne_nil hsome
    have hfirst : first.isDigit = true := hdigits first List.mem_cons_self
    have htake : (first :: more ++ rest).takeWhile Char.isDigit = first :: more :=
      takeWhile_digits hdigits hrest
    rcases hsign with ⟨rfl, rfl⟩ | ⟨rfl | rfl, rfl⟩
    · have hdrop : text.toList.dropWhile isSpace = '-' :: (first :: more ++ rest) := by
        rw [htext]
        exact dropWhile_blanks hblanks (by rintro c ⟨⟩; rfl)
      simp only [stoi, hdrop, takeSign, htake]
      simp [hfits]
    · have hdrop : text.toList.dropWhile isSpace = first :: more ++ rest := by
        rw [htext]
        refine dropWhile_blanks hblanks ?_
        rintro c ⟨⟩
        exact isSpace_eq_false_of_isDigit hfirst
      have hsigned : takeSign (first :: more ++ rest) = (false, first :: more ++ rest) :=
        takeSign_of_digit hfirst _
      simp only [stoi, hdrop, hsigned, htake]
      simp [hfits]
    · have hdrop : text.toList.dropWhile isSpace = '+' :: (first :: more ++ rest) := by
        rw [htext]
        exact dropWhile_blanks hblanks (by rintro c ⟨⟩; rfl)
      simp only [stoi, hdrop, takeSign, htake]
      simp [hfits]

/-- The cast to `unsigned short` keeps the number modulo 65536. -/
theorem eq_ofInt_iff (port : UInt16) (n : Int) :
    port = UInt16.ofInt n ↔ (port.toNat : Int) = n % 65536 := by
  have hvalue : ((UInt16.ofInt n).toNat : Int) = n % 65536 := by
    rw [UInt16.ofInt, UInt16.toNat_ofNat']
    omega
  constructor
  · rintro rfl
    exact hvalue
  · intro hsame
    apply UInt16.toNat.inj
    omega

/-- The server's port: the default one, or the number of the text in sixteen bits. -/
theorem loadPort_ok_iff (environment : Environment) (port : UInt16) :
    loadPort environment = .ok port ↔
      (environment "BUZZWEB_SERVER_PORT" = none ∧ port = defaultPort) ∨
      ∃ text n, environment "BUZZWEB_SERVER_PORT" = some text ∧ Numeral text.toList n ∧
        FitsInt n ∧ port = UInt16.ofInt n := by
  unfold loadPort getEnvOptional
  cases henv : environment "BUZZWEB_SERVER_PORT" with
  | none =>
      constructor
      · intro hok
        exact Or.inl ⟨rfl, (Except.ok.inj hok).symm⟩
      · rintro (⟨-, rfl⟩ | ⟨text, n, hsome, -⟩)
        · rfl
        · cases hsome
  | some text =>
      constructor
      · intro hok
        cases hstoi : stoi text with
        | error error =>
            simp only [hstoi] at hok
            cases hok
        | ok n =>
            simp only [hstoi] at hok
            obtain ⟨hnumeral, hfits⟩ := (stoi_ok_iff text n).mp hstoi
            exact Or.inr ⟨text, n, rfl, hnumeral, hfits, (Except.ok.inj hok).symm⟩
      · rintro (⟨hnone, -⟩ | ⟨text', n, hsome, hnumeral, hfits, rfl⟩)
        · cases hnone
        · obtain rfl := Option.some.inj hsome
          simp only [(stoi_ok_iff text n).mpr ⟨hnumeral, hfits⟩]
          rfl

/-- A printed number is a numeral of that number. -/
theorem numeral_repr (n : Nat) : Numeral n.repr.toList n := by
  refine ⟨[], [], Nat.toDigits 10 n, [], ?_, ?_, Nat.toDigits_ne_nil, ?_, ?_,
    Or.inr ⟨Or.inl rfl, ?_⟩⟩
  · rw [Nat.toList_repr]
    simp
  · simp
  · exact fun c hmem => Nat.isDigit_of_mem_toDigits (by decide) (by decide) hmem
  · simp
  · simp [signedValue]

/-- A port that is written down is the port that is used. -/
theorem loadPort_of_repr {environment : Environment} {port : UInt16}
    (henv : environment "BUZZWEB_SERVER_PORT" = some port.toNat.repr) :
    loadPort environment = .ok port := by
  have hbound := port.toNat_lt
  refine (loadPort_ok_iff environment port).mpr (Or.inr ⟨_, port.toNat, henv, numeral_repr _, ?_, ?_⟩)
  · constructor <;> omega
  · rw [eq_ofInt_iff]
    omega

/-- A number that is no port is cut down to one, and what follows it is not looked at. -/
example : loadPort (fun _ => some " -1 # off") = .ok 65535 := by decide

/-- **When the server comes up.**  For every environment: the configuration loads exactly when the
port variable is unset or starts with a number that fits an `int`, and TLS is switched off or both
file variables are set.  The port is that number in sixteen bits, whatever follows it in the text;
without TLS the file variables are not looked at. -/
theorem loadConfig_iff (environment : Environment) (config : ServerConfig) :
    loadConfig environment = .ok config ↔
      ((environment "BUZZWEB_SERVER_PORT" = none ∧ config.port = 9291) ∨
        ∃ text n, environment "BUZZWEB_SERVER_PORT" = some text ∧ Numeral text.toList n ∧
          FitsInt n ∧ (config.port.toNat : Int) = n % 65536) ∧
      (config.tlsEnabled = false ↔ ∃ value, environment "BUZZWEB_TLS_ENABLED" = some value ∧
        (value = "0" ∨ value = "FALSE" ∨ value = "false")) ∧
      (if config.tlsEnabled then
        environment "BUZZWEB_CERTIFICATE_FILE_PATH" = some config.certificateFile ∧
        environment "BUZZWEB_PRIVATE_KEY_PATH" = some config.privateKeyFile
      else config.certificateFile = "" ∧ config.privateKeyFile = "") := by
  have hswitch : tlsRequired environment = false ↔ ∃ value,
      environment "BUZZWEB_TLS_ENABLED" = some value ∧
        (value = "0" ∨ value = "FALSE" ∨ value = "false") := by
    unfold tlsRequired getEnvOptional
    cases environment "BUZZWEB_TLS_ENABLED" with
    | none => simp
    | some value =>
        rw [Bool.not_eq_false', Bool.or_eq_true, Bool.or_eq_true]
        simp [or_assoc]
  have hport : loadPort environment = .ok config.port ↔
      (environment "BUZZWEB_SERVER_PORT" = none ∧ config.port = 9291) ∨
        ∃ text n, environment "BUZZWEB_SERVER_PORT" = some text ∧ Numeral text.toList n ∧
          FitsInt n ∧ (config.port.toNat : Int) = n % 65536 := by
    simp only [loadPort_ok_iff, eq_ofInt_iff, defaultPort]
  rw [← hport, ← hswitch]
  obtain ⟨port, certificateFile, privateKeyFile, tlsEnabled⟩ := config
  cases hload : loadPort environment with
  | error error => simp [loadConfig, hload, bind, Except.bind]
  | ok loaded =>
      cases htls : tlsRequired environment with
      | false =>
          have hconfig : loadConfig environment = .ok ⟨loaded, "", "", false⟩ := by
            simp only [loadConfig, hload, htls]
            rfl
          rw [hconfig]
          cases tlsEnabled with
          | false => simp [eq_comm]
          | true => simp
      | true =>
          cases hcert : environment "BUZZWEB_CERTIFICATE_FILE_PATH" with
          | none =>
              have hconfig : loadConfig environment = .error .getenvError := by
                simp only [loadConfig, hload, htls, getEnv, hcert]
                rfl
              rw [hconfig]
              cases tlsEnabled <;> simp
          | some certPath =>
              cases hkey : environment "BUZZWEB_PRIVATE_KEY_PATH" with
              | none =>
                  have hconfig : loadConfig environment = .error .getenvError := by
                    simp only [loadConfig, hload, htls, getEnv, hcert, hkey]
                    rfl
                  rw [hconfig]
                  cases tlsEnabled <;> simp
              | some privateKey =>
                  have hconfig : loadConfig environment =
                      .ok ⟨loaded, certPath, privateKey, true⟩ := by
                    simp only [loadConfig, hload, htls, getEnv, hcert, hkey]
                    rfl
                  rw [hconfig]
                  cases tlsEnabled <;> simp

end Util
end BuzzWeb

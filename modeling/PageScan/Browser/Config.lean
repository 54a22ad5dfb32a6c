import PageScan.Config

/-!
# Starting a browser

Which executable to start, how large its window is, and what arguments it gets.
-/

namespace PageScan

/-- How a browser is started. -/
structure ChromeConfig where
  binary : String := "chromium"
  windowWidth : Nat := 1920
  windowHeight : Nat := 1080
  /-- The time in which the browser has to say where it listens. -/
  startupTimeoutMs : Nat := 30000
  /-- The time in which a command has to be answered. -/
  commandTimeoutMs : Nat := 180000
  extraArgs : List String := []
  deriving DecidableEq

namespace ChromeConfig

/-- Reads a configuration. -/
def decoder : Json.Decoder ChromeConfig :=
  let d : ChromeConfig := {}
  .record "ChromeConfig"
    (.cons (.defaulted "binary" .path d.binary) <|
      .cons (.defaulted "window_width" .u32 d.windowWidth) <|
      .cons (.defaulted "window_height" .u32 d.windowHeight) <|
      .cons (.defaulted "startup_timeout_ms" .u64 d.startupTimeoutMs) <|
      .cons (.defaulted "command_timeout_ms" .u64 d.commandTimeoutMs) <|
      .cons (.defaulted "extra_args" (.list .string) d.extraArgs) .nil)
    fun (binary, width, height, startup, command, extra, ()) =>
      ⟨binary, width, height, startup, command, extra⟩

/-- The configuration as a document. -/
def toJson (c : ChromeConfig) : Json.Value :=
  .object
    [("binary", .string c.binary), ("window_width", .ofNat c.windowWidth),
      ("window_height", .ofNat c.windowHeight), ("startup_timeout_ms", .ofNat c.startupTimeoutMs),
      ("command_timeout_ms", .ofNat c.commandTimeoutMs), ("extra_args", .ofStrings c.extraArgs)]

/-- The arguments of a browser whose profile is kept in a directory. -/
def args (c : ChromeConfig) (profile : String) : List String :=
  ["--headless=new", "--remote-debugging-port=0", "--user-data-dir=" ++ profile, "--no-sandbox",
    "--disable-gpu", "--disable-dev-shm-usage", "--no-first-run", "--no-default-browser-check",
    "--hide-scrollbars", "--mute-audio",
    "--window-size=" ++ toString c.windowWidth ++ "," ++ toString c.windowHeight] ++
    c.extraArgs ++ ["about:blank"]

instance : Json.Document ChromeConfig := ⟨decoder, toJson⟩

end ChromeConfig

end PageScan

import Gleaner.Schema.Reading
import Gleaner.Settings.Basic

/-!
# Settings as JSON

Reading the sections with their bounds, and writing them with secrets blotted out.
-/

set_option autoImplicit false

namespace Gleaner

def Reading.floatBetween (least most : Int) : Reading Float := fun value =>
  ((Reading.float value).demand (fun x => !(x > Decimal.ofInt most)) (.above most)).demand
    (fun x => !(x < Decimal.ofInt least)) (.below least)

def Reading.floatAbove (bound : Int) : Reading Float := fun value =>
  (Reading.float value).demand (fun x => !(x <= Decimal.ofInt bound)) (.notAbove bound)

def Reading.section {α : Type} (form : String) (read : Fields → Checked α) : Reading α
  | .obj fields => read fields
  | _ => .complain (.notObjectOf form)

def ModelSettings.ofFields (fields : Fields) : Checked ModelSettings :=
  ModelSettings.mk
    <$> Fields.optional fields "model" "gpt-4o-mini" Reading.string
    <*> Fields.optional fields "api_key" none
      (Reading.orNull fun value => Secret.mk <$> Reading.string value)
    <*> Fields.optional fields "base_url" "https://api.openai.com" Reading.string
    <*> Fields.optional fields "temperature" 0 (Reading.floatBetween 0 2)
    <*> Fields.optional fields "max_tokens" 4096 (Reading.natural 1 (some 128000))
    <*> Fields.optional fields "timeout" 120 (Reading.natural 5 (some 600))
    <*> Fields.optional fields "retry_attempts" 3 (Reading.natural 1 (some 10))
    <*> Fields.optional fields "extractor_model" none (Reading.orNull Reading.string)

def BrowserSettings.ofFields (fields : Fields) : Checked BrowserSettings :=
  BrowserSettings.mk
    <$> Fields.optional fields "headless" true Reading.bool
    <*> Fields.optional fields "browser_type" .chromium (Reading.choice BrowserKind.names)
    <*> Fields.optional fields "timeout_ms" 30000 (Reading.natural 1000 (some 300000))
    <*> Fields.optional fields "viewport_width" 1280 (Reading.natural 320 (some 3840))
    <*> Fields.optional fields "viewport_height" 720 (Reading.natural 240 (some 2160))
    <*> Fields.optional fields "user_agent" none (Reading.orNull Reading.string)

def RunSettings.ofFields (fields : Fields) : Checked RunSettings :=
  let bounded (name : String) (default least : Nat) : Checked Nat :=
    Fields.optional fields name default (Reading.natural least)
  RunSettings.mk
    <$> bounded "poll_interval_ms" 300 1
    <*> bounded "wait_timeout_ms" 10000 1
    <*> bounded "loading_timeout_ms" 10000 1
    <*> bounded "inline_details_wait_ms" 100 0
    <*> bounded "details_settle_ms" 300 0
    <*> Fields.optional fields "extract_retries" 3 (Reading.natural 1 (some 10))
    <*> bounded "extract_retry_delay_ms" 500 0
    <*> bounded "max_repeat_iterations" 50 1
    <*> bounded "no_new_items_limit" 3 1
    <*> bounded "page_end_threshold_px" 50 0
    <*> bounded "progress_every" 5 1

def BindingSettings.ofFields (fields : Fields) : Checked BindingSettings :=
  BindingSettings.mk
    <$> Fields.optional fields "store_path" "~/.recipe-agent/bindings.json" Reading.string
    <*> Fields.optional fields "max_age_hours" 24 (Reading.floatAbove 0)
    <*> Fields.optional fields "min_snapshot_chars" 50 (Reading.natural 0)
    <*> Fields.optional fields "max_snapshot_chars" 30000 (Reading.natural 1000)
    <*> Fields.optional fields "max_repair_context_chars" 5000 (Reading.natural 500)

def LogSettings.ofFields (fields : Fields) : Checked LogSettings :=
  LogSettings.mk
    <$> Fields.optional fields "level" .info (Reading.choice LogLevel.names)
    <*> Fields.optional fields "file" none (Reading.orNull Reading.string)
    <*> Fields.optional fields "json_format" false Reading.bool

def Settings.ofFields (fields : Fields) : Checked Settings :=
  Settings.mk
    <$> Fields.optional fields "llm" {} (Reading.section "LLMSettings" ModelSettings.ofFields)
    <*> Fields.optional fields "browser" {}
      (Reading.section "BrowserSettings" BrowserSettings.ofFields)
    <*> Fields.optional fields "executor" {}
      (Reading.section "ExecutorSettings" RunSettings.ofFields)
    <*> Fields.optional fields "bindings" {}
      (Reading.section "BindingSettings" BindingSettings.ofFields)
    <*> Fields.optional fields "logging" {} (Reading.section "LoggingSettings" LogSettings.ofFields)
    <*> Fields.optional fields "debug" false Reading.bool

abbrev SecretText := Secret → String

def ModelSettings.toJson (secret : SecretText) (s : ModelSettings) : Json :=
  .obj
    [("model", .str s.model), ("api_key", .ofString? (s.apiKey.map secret)),
      ("base_url", .str s.baseUrl), ("temperature", .float s.temperature),
      ("max_tokens", .int s.maxTokens), ("timeout", .int s.timeout),
      ("retry_attempts", .int s.retryAttempts), ("extractor_model", .ofString? s.extractorModel)]

def BrowserSettings.toJson (s : BrowserSettings) : Json :=
  .obj
    [("headless", .bool s.headless), ("browser_type", .str s.kind.name),
      ("timeout_ms", .int s.timeoutMs), ("viewport_width", .int s.viewportWidth),
      ("viewport_height", .int s.viewportHeight), ("user_agent", .ofString? s.userAgent)]

def RunSettings.toJson (s : RunSettings) : Json :=
  .obj
    [("poll_interval_ms", .int s.pollIntervalMs), ("wait_timeout_ms", .int s.waitTimeoutMs),
      ("loading_timeout_ms", .int s.loadingTimeoutMs),
      ("inline_details_wait_ms", .int s.inlineDetailsWaitMs),
      ("details_settle_ms", .int s.detailsSettleMs), ("extract_retries", .int s.extractRetries),
      ("extract_retry_delay_ms", .int s.extractRetryDelayMs),
      ("max_repeat_iterations", .int s.maxRepeatIterations),
      ("no_new_items_limit", .int s.noNewItemsLimit),
      ("page_end_threshold_px", .int s.pageEndThresholdPx),
      ("progress_every", .int s.progressEvery)]

def BindingSettings.toJson (s : BindingSettings) : Json :=
  .obj
    [("store_path", .str s.storePath), ("max_age_hours", .float s.maxAgeHours),
      ("min_snapshot_chars", .int s.minSnapshotChars),
      ("max_snapshot_chars", .int s.maxSnapshotChars),
      ("max_repair_context_chars", .int s.maxRepairContextChars)]

def LogSettings.toJson (s : LogSettings) : Json :=
  .obj
    [("level", .str s.level.name), ("file", .ofString? s.file),
      ("json_format", .bool s.jsonFormat)]

def Settings.toFields (secret : SecretText) (s : Settings) : Fields :=
  [("llm", s.llm.toJson secret), ("browser", s.browser.toJson),
    ("executor", s.executor.toJson), ("bindings", s.bindings.toJson),
    ("logging", s.logging.toJson), ("debug", .bool s.debug)]

def Settings.toJson (secret : SecretText) (s : Settings) : Json :=
  .obj (s.toFields secret)

end Gleaner

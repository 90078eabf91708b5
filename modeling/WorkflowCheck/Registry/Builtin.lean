import WorkflowCheck.Registry.Basic

/-!
# The built-in registry

The types of node that are known when no other registry is given.
-/

namespace WorkflowCheck.Registry

/-- The contracts of the built-in types. -/
def builtinContracts : List Contract :=
  [{ type := "binance_price_node"
     category := .input
     description := "Get Binance market data for specified trading pairs"
     requiredInputs := ["symbol", "interval"]
     optionalInputs := ["limit"]
     outputs := ["current_price", "kline_data"]
     dynamicField := none },
   { type := "dataset_input_node"
     category := .input
     description := "Load dataset from user's Google Sheets"
     requiredInputs := ["doc_link"]
     optionalInputs := []
     outputs := ["data"]
     dynamicField := none },
   { type := "rss_listener_node"
     category := .input
     description := "Get information from RSS feeds"
     requiredInputs := ["route"]
     optionalInputs := ["parameters", "keywords"]
     outputs := ["feeds"]
     dynamicField := none },
   { type := "x_listener_node"
     category := .input
     description := "Monitor X (formerly Twitter) accounts"
     requiredInputs := ["accounts"]
     optionalInputs := ["keywords"]
     outputs := ["latest tweets"]
     dynamicField := none },
   { type := "ai_model_node"
     category := .compute
     description := "Run AI models for analysis and generation"
     requiredInputs := ["model", "prompt"]
     optionalInputs := ["parameters"]
     outputs := ["ai_response"]
     dynamicField := none },
   { type := "code_node"
     category := .compute
     description := "Execute custom Python code"
     requiredInputs := ["python_code"]
     optionalInputs := ["input_data"]
     outputs := ["output_data", "debug_output"]
     dynamicField := some "input_data" },
   { type := "swap_node"
     category := .trade
     description := "Process swap operations and execute swaps"
     requiredInputs := ["from_token", "to_token", "chain", "vault_address"]
     optionalInputs := ["amount_in_percentage", "amount_in_human_readble", "slippery"]
     outputs := ["trade_receipt"]
     dynamicField := none },
   { type := "buy_node"
     category := .trade
     description := "Process buy signals and execute buy operations"
     requiredInputs := ["buy_token", "base_token", "vault_address", "chain"]
     optionalInputs :=
       ["order_type", "limited_price", "amount_in_percentage", "amount_in_human_readble"]
     outputs := ["trade_receipt"]
     dynamicField := none },
   { type := "sell_node"
     category := .trade
     description := "Process sell signals and execute sell operations"
     requiredInputs := ["sell_token", "base_token", "vault_address", "chain"]
     optionalInputs :=
       ["order_type", "limited_price", "amount_in_percentage", "amount_in_human_readble"]
     outputs := ["trade_receipt"]
     dynamicField := none },
   { type := "vault_node"
     category := .trade
     description := "Display user's vault information"
     requiredInputs := ["vault_address", "chain"]
     optionalInputs := []
     outputs := ["vault_balance", "vault_address", "chain"]
     dynamicField := none },
   { type := "dataset_output_node"
     category := .output
     description := "Save data to user's Google Sheets"
     requiredInputs := ["doc_link", "data"]
     optionalInputs := []
     outputs := []
     dynamicField := none },
   { type := "telegram_sender_node"
     category := .output
     description := "Send messages to Telegram"
     requiredInputs := ["account_to_send", "messages"]
     optionalInputs := []
     outputs := []
     dynamicField := none }]

/-- The registry of the built-in types. -/
def builtin : Registry :=
  builtinContracts.foldl withContract empty

end WorkflowCheck.Registry

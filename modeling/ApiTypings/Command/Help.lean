import ApiTypings.Command.Arguments

/-!
# Help texts
-/

namespace ApiTypings.Command

def versionText : String := "yapi2ts 0.1.0\n"

def linesText (ls : List String) : String := ls.foldr (fun l s => l ++ "\n" ++ s) ""

def Topic.text : Topic → String
  | .program => linesText [
      "Generate TypeScript declarations from YAPI interface definitions",
      "",
      "Usage: yapi2ts [COMMAND]",
      "",
      "Commands:",
      "  list      List the project's categories and interfaces",
      "  generate  Generate one TypeScript module per selected interface",
      "  help      Print this message or the help of the given subcommand(s)",
      "",
      "Options:",
      "  -h, --help     Print help",
      "  -V, --version  Print version"]
  | .list => linesText [
      "List the project's categories and interfaces",
      "",
      "Usage: yapi2ts list [OPTIONS]",
      "",
      "Options:",
      "      --config <PATH>   Config file. Defaults to ./yapi2ts.toml, then ~/.yapi2ts/config.toml",
      "      --base-url <URL>  YAPI server URL (overrides YAPI2TS_BASE_URL)",
      "      --token <TOKEN>   YAPI project token (overrides YAPI2TS_TOKEN)",
      "  -h, --help            Print help"]
  | .generate => linesText [
      "Generate one TypeScript module per selected interface",
      "",
      "Usage: yapi2ts generate [OPTIONS]",
      "",
      "Options:",
      "      --config <PATH>",
      "          Config file. Defaults to ./yapi2ts.toml, then ~/.yapi2ts/config.toml",
      "",
      "      --base-url <URL>",
      "          YAPI server URL (overrides YAPI2TS_BASE_URL)",
      "",
      "      --token <TOKEN>",
      "          YAPI project token (overrides YAPI2TS_TOKEN)",
      "",
      "      --all",
      "          Generate every interface of the project (default)",
      "",
      "      --category <NAME>",
      "          Generate the interfaces of a category. Repeatable",
      "",
      "      --id <ID>",
      "          Generate one interface by id. Repeatable",
      "",
      "      --out <DIR>",
      "          Output directory. Defaults to ./yapi",
      "",
      "      --concurrency <N>",
      "          Maximum concurrent detail fetches, 0 for no limit",
      "",
      "      --collision <COLLISION>",
      "          What to do when two interfaces map to the same file",
      "",
      "          Possible values:",
      "          - overwrite:     Later modules replace earlier files of the same name",
      "          - qualify-by-id: Later modules are written to \x60<name>_<id>.ts\x60",
      "          - reject:        Later modules are skipped and reported as failures",
      "",
      "  -h, --help",
      "          Print help (see a summary with '-h')"]
  | .generateBriefly => linesText [
      "Generate one TypeScript module per selected interface",
      "",
      "Usage: yapi2ts generate [OPTIONS]",
      "",
      "Options:",
      "      --config <PATH>          Config file. Defaults to ./yapi2ts.toml, then " ++
        "~/.yapi2ts/config.toml",
      "      --base-url <URL>         YAPI server URL (overrides YAPI2TS_BASE_URL)",
      "      --token <TOKEN>          YAPI project token (overrides YAPI2TS_TOKEN)",
      "      --all                    Generate every interface of the project (default)",
      "      --category <NAME>        Generate the interfaces of a category. Repeatable",
      "      --id <ID>                Generate one interface by id. Repeatable",
      "      --out <DIR>              Output directory. Defaults to ./yapi",
      "      --concurrency <N>        Maximum concurrent detail fetches, 0 for no limit",
      "      --collision <COLLISION>  What to do when two interfaces map to the same file " ++
        "[possible values: overwrite, qualify-by-id, reject]",
      "  -h, --help                   Print help (see more with '--help')"]
  | .help => linesText [
      "Print this message or the help of the given subcommand(s)",
      "",
      "Usage: yapi2ts help [COMMAND]...",
      "",
      "Arguments:",
      "  [COMMAND]...  Print help for the subcommand(s)"]

end ApiTypings.Command

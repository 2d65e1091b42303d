import ApiPages.Yaml.Basic

namespace ApiPages.Settings

-- Pages of types that are documented elsewhere.
def externalTypes : List (String × String) :=
  [("Reducer", "https://redux.js.org/basics/reducers/"),
   ("StoreEnhancer", "https://redux.js.org/advanced/middleware"),
   ("PreloadedState", "https://redux.js.org/recipes/structuring-reducers/initializing-state/"),
   ("ReduxStore", "https://redux.js.org/basics/store"),
   ("Partial", "https://www.typescriptlang.org/docs/handbook/utility-types.html#partialt"),
   ("ReturnType", "https://www.typescriptlang.org/docs/handbook/utility-types.html#returntypet"),
   ("Promise", "https://developer.mozilla.org/en-US/docs/Web/JavaScript/Guide/Using_promises"),
   ("Observable", "https://github.com/tc39/proposal-observable"),
   ("ReduxContext", "https://react-redux.js.org/using-react-redux/accessing-store"),
   ("Process", "https://nodejs.org/api/process.html#process_process"),
   ("HTTPServer", "https://nodejs.org/api/http.html#http_class_http_server"),
   ("Unsubscribe", "https://github.com/ai/nanoevents/#remove-listener"),
   ("Component", "https://reactjs.org/docs/react-component.html"),
   ("ActionTree", "https://vuex.vuejs.org/guide/hot-reload.html"),
   ("GetterTree", "https://vuex.vuejs.org/guide/hot-reload.html"),
   ("ModuleTree", "https://vuex.vuejs.org/guide/hot-reload.html"),
   ("MutationTree", "https://vuex.vuejs.org/guide/hot-reload.html"),
   ("WebSocket", "https://developer.mozilla.org/en-US/docs/Web/API/WebSocket"),
   ("Map", "https://developer.mozilla.org/en-US/docs/Web/JavaScript/Reference/Global_Objects/Map"),
   ("VuexDispatch", "https://vuex.vuejs.org/api/#dispatch"),
   ("Module", "https://vuex.vuejs.org/guide/modules.html"),
   ("ModuleOptions", "https://vuex.vuejs.org/guide/modules.html#preserving-state"),
   ("VuexStoreOptions", "https://vuex.vuejs.org/api/#vuex-store-constructor-options"),
   ("VuexStore", "https://vuex.vuejs.org/api/#vuex-store"),
   ("SubscribeActionOptions", "https://vuex.vuejs.org/api/#subscribeaction"),
   ("WatchOptions", "https://vuex.vuejs.org/api/#watch"),
   ("CommitOptions", "https://vuex.vuejs.org/api/#commit"),
   ("SubscribeOptions", "https://vuex.vuejs.org/api/#subscribe"),
   ("ComponentType",
    "https://github.com/DefinitelyTyped/DefinitelyTyped/blob/master/types/react/index.d.ts#L81"),
   ("App", "https://v3.vuejs.org/api/global-api.html#createapp"),
   ("InjectionKey", "https://v3.vuejs.org/api/composition-api.html#provide-inject"),
   ("Ref", "https://v3.vuejs.org/api/refs-api.html#ref"),
   ("ComputedGetter", "https://v3.vuejs.org/api/computed-watch-api.html#computed"),
   ("ComputedRef", "https://v3.vuejs.org/api/computed-watch-api.html#computed"),
   ("VuexPayload", "https://vuex.vuejs.org/guide/mutations.html#commit-with-payload")]

namespace Defaults

def texts (items : List String) : Yaml := .list (items.map .text)

def named (members : List (String × Yaml)) : Yaml :=
  .mapping (members.map fun (name, value) => (.text name, value))

def types : Yaml := named
  [("external", named (externalTypes.map fun (name, url) => (name, .text url))),
   ("simple", texts ["WebSocket", "RegExp", "Error", "Array", "function", "boolean", "string",
     "object", "number", "any", "ExtendedVue", "Store"]),
   ("hide_constructor", texts ["ChannelContext", "Context", "ServerClient", "TestLog"]),
   ("templateless", texts ["ActionIterator", "ActionListener", "Log"]),
   ("inline", texts ["NodeState"])]

end Defaults

open Defaults in
def defaults : Yaml.Members :=
  (named
    [("types", types),
     ("substitution", named [("name", .text "M"), ("default", .text "ClientMeta"),
       ("pages", named [("node-api", .text "ServerMeta")])]),
     ("extends_aliases", .list [named [("suffix", .text "/vuex/types/index\".Store"),
       ("name", .text "VuexStore")]]),
     ("excluded_variables", texts ["WebSocket"]),
     ("edit_url", named [("pattern", .text "logux-([^/]+)/(.*)$"),
       ("template", .text "https://github.com/logux/\x7b0\x7d/edit/master/\x7b1\x7d")]),
     ("markdown", named [("highlight_prefix", .text "code-block_"),
       ("extensions", texts ["fenced_code", "tables"])]),
     ("output_dir", .text "dist")]).members

end ApiPages.Settings

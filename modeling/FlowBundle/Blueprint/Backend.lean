import FlowBundle.Blueprint.Basic
import FlowBundle.Provider
import FlowBundle.Text.Lines
/-!
# The blueprints of a backend

The ten files of a generated backend, in the order in which they are packed, and the path of the
eleventh, which holds the workflow itself.  Memory is the only choice: its fragments add a session
argument, a route and a function that clear the history, and the pages about it.
-/
namespace FlowBundle
namespace Blueprint

def appBody : String :=
  Text.unlines
    ["\"\"\"",
     "Entry point of the generated AI workflow backend.",
     "\"\"\"",
     "",
     "import os",
     "",
     "from dotenv import load_dotenv",
     "",
     "load_dotenv()",
     "",
     "from flask import Flask  # noqa: E402",
     "from flask_cors import CORS  # noqa: E402",
     "",
     "from routes import workflow_routes  # noqa: E402",
     "",
     "app = Flask(__name__)",
     "CORS(app)",
     "",
     "app.register_blueprint(workflow_routes.bp)",
     "",
     "",
     "@app.get(\"/health\")",
     "def health():",
     "    return \x7b\"status\": \"ok\"\x7d",
     "",
     "",
     "if __name__ == \"__main__\":",
     "    port = int(os.environ.get(\"PORT\", 5000))",
     "    app.run(host=\"0.0.0.0\", port=port, debug=os.environ.get(\"FLASK_DEBUG\") == \"1\")"]

def routesBody : String :=
  Text.unlines
    ["\"\"\"",
     "HTTP routes of the generated AI workflow backend.",
     "\"\"\"",
     "",
     "from flask import Blueprint, jsonify, request",
     "",
     "from utils import workflow_executor",
     "",
     "bp = Blueprint(\"workflow\", __name__, url_prefix=\"/api\")",
     "",
     "",
     "@bp.route(\"/execute\", methods=[\"POST\"])",
     "def execute_workflow():",
     "    data = request.get_json(silent=True) or \x7b\x7d",
     "    input_message = data.get(\"message\", \"\")",
     "{execute_call}",
     "    return jsonify(result)"] ++
    "{clear_memory_route}"

def executeWithMemory : String :=
  Text.unlines
    ["    result = workflow_executor.execute_workflow(",
     "        input_message, session_id=data.get(\"session_id\")"] ++
    "    )"

def executePlain : String := "    result = workflow_executor.execute_workflow(input_message)"

def clearMemoryRoute : String :=
  Text.unlines
    ["",
     "",
     "@bp.route(\"/clear-memory\", methods=[\"POST\"])",
     "def clear_memory():",
     "    \"\"\"Clear the conversation history of one session, or of every session.\"\"\"",
     "    data = request.get_json(silent=True) or \x7b\x7d",
     "    result = workflow_executor.clear_conversation_history(data.get(\"session_id\"))",
     "    return jsonify(result)"]

/-- The model adapter: model, key and temperature stand in it as they were entered. -/
def adapterBody : String :=
  Text.unlines
    ["\"\"\"",
     "LLM adapter of the generated AI workflow backend.",
     "",
     "Provider family: {provider_name}",
     "\"\"\"",
     "",
     "import os",
     "from typing import Any, Dict, List, Optional",
     "",
     "from langchain_anthropic import ChatAnthropic",
     "from langchain_core.messages import AIMessage, BaseMessage, HumanMessage",
     "from langchain_google_genai import ChatGoogleGenerativeAI",
     "from langchain_huggingface import ChatHuggingFace, HuggingFaceEndpoint",
     "from langchain_openai import ChatOpenAI",
     "",
     "MODEL = \"{model}\"",
     "API_KEY = os.getenv(\"{api_key_env}\") or \"{api_key}\"",
     "TEMPERATURE = {temperature}",
     "USE_MEMORY = \"{use_memory}\" == \"true\"",
     "",
     "# 10 user/assistant exchanges.",
     "MAX_HISTORY_MESSAGES = 20",
     "",
     "",
     "def _response_text(response: Any) -> str:",
     "    content = getattr(response, \"content\", None)",
     "    return content if isinstance(content, str) else str(response)",
     "",
     "",
     "class LLMService:",
     "    def __init__(",
     "        self,",
     "        model: str = MODEL,",
     "        api_key: str = API_KEY,",
     "        temperature: float = TEMPERATURE,",
     "        use_memory: bool = USE_MEMORY,",
     "    ):",
     "        self.model = model",
     "        self.api_key = api_key",
     "        self.temperature = float(temperature)",
     "        self.use_memory = use_memory",
     "        self._histories: Dict[str, List[BaseMessage]] = \x7b\x7d",
     "        self._llm = self._initialize_llm()",
     "",
     "    def _initialize_llm(self):",
     "        \"\"\"Build the chat model whose provider family matches the model id.\"\"\"",
     "        model = self.model.lower()",
     "        if \"gpt\" in model:",
     "            return ChatOpenAI(",
     "                model=self.model,",
     "                api_key=self.api_key,",
     "                temperature=self.temperature,",
     "            )",
     "        if \"claude\" in model:",
     "            return ChatAnthropic(",
     "                model=self.model,",
     "                api_key=self.api_key,",
     "                temperature=self.temperature,",
     "            )",
     "        if \"gemini\" in model:",
     "            return ChatGoogleGenerativeAI(",
     "                model=self.model,",
     "                google_api_key=self.api_key,",
     "                temperature=self.temperature,",
     "            )",
     "        if \"llama\" in model or \"mistral\" in model:",
     "            endpoint = HuggingFaceEndpoint(",
     "                repo_id=self.model,",
     "                huggingfacehub_api_token=self.api_key,",
     "                temperature=self.temperature,",
     "            )",
     "            return ChatHuggingFace(llm=endpoint)",
     "        print(f\"Model type not recognized: \x7bself.model\x7d. Defaulting to " ++ Family.fallbackModel ++ ".\")",
     "        return ChatOpenAI(",
     "            model=\"" ++ Family.fallbackModel ++ "\",",
     "            api_key=self.api_key,",
     "            temperature=self.temperature,",
     "        )",
     "",
     "    def update_model(",
     "        self,",
     "        model: str,",
     "        api_key: Optional[str] = None,",
     "        temperature: Optional[float] = None,",
     "    ) -> None:",
     "        \"\"\"Switch to another model and rebuild the chat client.\"\"\"",
     "        self.model = model",
     "        if api_key is not None:",
     "            self.api_key = api_key",
     "        if temperature is not None:",
     "            self.temperature = float(temperature)",
     "        self._llm = self._initialize_llm()",
     "",
     "    def _history_for(self, session_id: Optional[str]) -> List[BaseMessage]:",
     "        # A request without a session starts from an empty, unsaved history.",
     "        if not session_id:",
     "            return []",
     "        return self._histories.setdefault(session_id, [])",
     "",
     "    def generate_response(self, prompt: str, session_id: Optional[str] = None) -> Dict[str, Any]:",
     "        \"\"\"Generate a response, replaying the session history when memory is on.\"\"\"",
     "        try:",
     "            if self.use_memory:",
     "                history = self._history_for(session_id)",
     "                response = self._llm.invoke(history + [HumanMessage(content=prompt)])",
     "                text = _response_text(response)",
     "                history.append(HumanMessage(content=prompt))",
     "                history.append(AIMessage(content=text))",
     "                if len(history) > MAX_HISTORY_MESSAGES:",
     "                    del history[: len(history) - MAX_HISTORY_MESSAGES]",
     "            else:",
     "                response = self._llm.invoke([HumanMessage(content=prompt)])",
     "                text = _response_text(response)",
     "            return \x7b\"text\": text, \"model\": self.model, \"success\": True\x7d",
     "        except Exception as exc:",
     "            return \x7b\"error\": f\"Error generating response: \x7bexc\x7d\", \"success\": False\x7d",
     "",
     "    def history(self, session_id: str) -> List[BaseMessage]:",
     "        return list(self._histories.get(session_id, []))",
     "",
     "    def clear_memory(self, session_id: Optional[str] = None) -> None:",
     "        if session_id:",
     "            self._histories.pop(session_id, None)",
     "        else:",
     "            self._histories.clear()",
     "",
     "",
     "default_llm = LLMService()"]

def executorBody : String :=
  Text.unlines
    ["\"\"\"",
     "Workflow execution for the generated AI workflow backend.",
     "",
     "{memory_note}",
     "\"\"\"",
     "",
     "from typing import Any, Dict, Optional",
     "",
     "from services.llm_service import default_llm",
     "",
     "",
     "def execute_workflow(input_message: str{session_param}) -> Dict[str, Any]:",
     "    \"\"\"Run the chat input through the LLM node and wrap the outcome.\"\"\"",
     "    try:",
     "        processed_input = (input_message or \"\").strip()",
     "        llm_response = default_llm.generate_response(processed_input{session_arg})",
     "        if not llm_response.get(\"success\", False):",
     "            return \x7b",
     "                \"success\": False,",
     "                \"error\": llm_response.get(\"error\", \"Unknown error\"),",
     "            \x7d",
     "        return \x7b",
     "            \"success\": True,",
     "            \"input\": processed_input,",
     "            \"output\": llm_response[\"text\"],",
     "            \"model\": llm_response[\"model\"],",
     "            \"has_memory\": default_llm.use_memory,",
     "        \x7d",
     "    except Exception as exc:",
     "        return \x7b\"success\": False, \"error\": f\"Workflow execution failed: \x7bexc\x7d\"\x7d"] ++
    "{clear_history}"

def clearHistory : String :=
  Text.unlines
    ["",
     "",
     "def clear_conversation_history(session_id: Optional[str] = None) -> Dict[str, Any]:",
     "    \"\"\"Forget the history of one session, or of every session.\"\"\"",
     "    default_llm.clear_memory(session_id)",
     "    return \x7b\"success\": True, \"message\": \"Conversation history cleared\"\x7d"]

def requirementsBody : String :=
  Text.unlines
    ["flask>=3.0.0",
     "flask-cors>=4.0.0",
     "python-dotenv>=1.0.0",
     "langchain-core>=0.3.0",
     "langchain-openai>=0.2.0",
     "langchain-anthropic>=0.2.0",
     "langchain-google-genai>=2.0.0",
     "langchain-huggingface>=0.1.0"]

def environmentBody : String :=
  Text.unlines
    ["# API keys. Every provider variable holds the key entered in the editor.",
     "OPENAI_API_KEY={api_key}",
     "ANTHROPIC_API_KEY={api_key}",
     "GOOGLE_API_KEY={api_key}",
     "HUGGINGFACEHUB_API_TOKEN={api_key}",
     "",
     "# Server configuration",
     "PORT=5000"]

def readmeBody : String :=
  Text.unlines
    ["# AI Workflow Backend",
     "",
     "This is an automatically generated Flask backend for an AI workflow.",
     "",
     "- Model: `{model}` ({provider_name})",
     "- Temperature: `{temperature}`",
     "",
     "## Setup",
     "",
     "1. Install dependencies:",
     "   ```",
     "   pip install -r requirements.txt",
     "   ```",
     "",
     "2. Run the application:",
     "   ```",
     "   python app.py",
     "   ```",
     "",
     "## API Endpoints",
     "",
     "- POST /api/execute",
     "  - Executes the workflow with the provided input",
     "  - Request body: `{execute_request}`",
     "  - Response: `\x7b \"success\": true, \"input\": \"...\", \"output\": \"...\" \x7d`",
     "{clear_memory_docs}",
     "## Configuration",
     "",
     "You can modify the .env file to update API keys and other configuration.",
     "The `workflow.json` file holds the workflow this backend was generated from.",
     "",
     "The model id and API key are written into `services/llm_service.py` exactly as",
     "they were entered in the editor, without escaping. A key containing quotes or",
     "backslashes breaks that file: generate the backend with a placeholder key and",
     "put the real one in `.env`, which is read first.",
     "",
     "## Memory Context",
     ""] ++
    "{memory_section}"

def requestWithMemory : String := "\x7b \"message\": \"Your input message\", \"session_id\": \"optional\" \x7d"

def requestPlain : String := "\x7b \"message\": \"Your input message\" \x7d"

def clearMemoryDocs : String :=
  Text.unlines
    ["",
     "- POST /api/clear-memory",
     "  - Clears the conversation history",
     "  - Request body (optional): `\x7b \"session_id\": \"...\" \x7d`",
     "  - Response: `\x7b \"success\": true, \"message\": \"Conversation history cleared\" \x7d`"]

def memoryEnabledDocs : String :=
  Text.unlines
    ["This backend includes conversation memory, allowing the LLM to remember",
     "previous interactions in a conversation.",
     "",
     "Memory is currently **enabled**.",
     "",
     "### How Memory Works",
     "",
     "1. Each request may carry a `session_id`; history is kept per session",
     "2. The user message and the LLM response are added to that history",
     "3. The stored history is sent along with every new message of the session",
     "4. At most 20 messages (10 exchanges) are kept; the oldest go first",
     "5. Requests without a `session_id` start from an empty history",
     "",
     "This is useful for:",
     "- Maintaining context in multi-turn conversations",
     "- Building chatbots that can remember user information",
     "- Creating assistants that can refer back to previous questions"]

def memoryDisabledDocs : String :=
  Text.unlines
    ["This backend can include conversation memory, but it is not active.",
     "",
     "Memory is currently **disabled**: every message is processed on its own,",
     "without conversation context. To turn it on, regenerate the backend with",
     "memory enabled on the LLM node."]

def packageMarker (name : String) : String := "# " ++ name ++ " package\n"

def memoryChoice : String := "memory"

def memoryOn : String := "on"

def memoryOff : String := "off"

def byMemory (on off : String) : Fragment := ⟨memoryChoice, [(memoryOn, on), (memoryOff, off)]⟩

/-- **The blueprints of a backend**, in packing order. -/
def backend : List Blueprint :=
  [{ path := "app.py", body := appBody },
   { path := "routes/workflow_routes.py", body := routesBody
     fragments := [("execute_call", byMemory executeWithMemory executePlain),
       ("clear_memory_route", byMemory clearMemoryRoute "")] },
   { path := "routes/__init__.py", body := packageMarker "Routes" },
   { path := "services/llm_service.py", body := adapterBody
     slots := ["model", "api_key", "api_key_env", "temperature", "use_memory", "provider_name"] },
   { path := "services/__init__.py", body := packageMarker "Services" },
   { path := "utils/workflow_executor.py", body := executorBody
     fragments :=
       [("memory_note", byMemory "Conversation memory is enabled: each session keeps its recent history."
          "Conversation memory is disabled: every message is handled on its own."),
        ("session_param", byMemory ", session_id: Optional[str] = None" ""),
        ("session_arg", byMemory ", session_id=session_id" ""),
        ("clear_history", byMemory clearHistory "")] },
   { path := "utils/__init__.py", body := packageMarker "Utils" },
   { path := "requirements.txt", body := requirementsBody },
   { path := ".env", body := environmentBody, slots := ["api_key"] },
   { path := "README.md", body := readmeBody
     slots := ["model", "temperature", "provider_name"]
     fragments := [("execute_request", byMemory requestWithMemory requestPlain),
       ("clear_memory_docs", byMemory clearMemoryDocs ""),
       ("memory_section", byMemory memoryEnabledDocs memoryDisabledDocs)] }]

def workflowPath : String := "workflow.json"

def backendPaths : List String := backend.map (·.path) ++ [workflowPath]

end Blueprint
end FlowBundle

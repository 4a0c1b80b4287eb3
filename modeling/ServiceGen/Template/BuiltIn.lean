import ServiceGen.TemplateKind

/-!
# Built-in Templates

The templates that are used where a project has none of its own. In this module the braces of
a template are written `⟦` and `⟧`.
-/

namespace ServiceGen

namespace TemplateKind

/-- A text with its braces. -/
def withBraces (text : String) : String :=
  text.map fun c => if c == '⟦' then '{' else if c == '⟧' then '}' else c

/-- The template of the business logic. -/
def logicText : String := "//! Business logic for the `⟦⟦ module ⟧⟧` module.
//!
//! Generated from ⟦⟦ title ⟧⟧ ⟦⟦ version ⟧⟧. Fill in the method bodies; the
//! signatures are what the `⟦⟦ module ⟧⟧` handlers call.

use crate::errors::⟦⟦ module ⟧⟧::⟦⟦ error_type ⟧⟧;
use crate::handlers::context::RequestContext;
#[allow(unused_imports)]
use crate::types::⟦⟦ module ⟧⟧::*;

/// ⟦⟦ pascal ⟧⟧ business logic.
#[derive(Debug, Clone, Default)]
pub struct ⟦⟦ logic_type ⟧⟧;

impl ⟦⟦ logic_type ⟧⟧ ⟦
    /// Creates the logic component registered in the dependency list.
    pub fn new() -> Self ⟦
        Self
    ⟧
⟦% for op in operations %⟧

    /// ⟦⟦ op.doc ⟧⟧
⟦% if op.deprecated %⟧
    ///
    /// Deprecated in the API description.
⟦% endif %⟧
    pub async fn ⟦⟦ op.method_name ⟧⟧(
        &self,
        ctx: &RequestContext,
⟦% for p in op.path_params %⟧
        ⟦⟦ p.field_name ⟧⟧: ⟦⟦ p.rust_type ⟧⟧,
⟦% endfor %⟧
⟦% if op.has_body_or_query %⟧
        req: ⟦⟦ op.request_type ⟧⟧,
⟦% endif %⟧
    ) -> Result<⟦⟦ op.response_type ⟧⟧, ⟦⟦ error_type ⟧⟧> ⟦
        let _ = (ctx⟦% for p in op.path_params %⟧, ⟦⟦ p.field_name ⟧⟧⟦% endfor %⟧⟦% if op.has_body_or_query %⟧, req⟦% endif %⟧);
        Ok(Default::default())
    ⟧
⟦% endfor %⟧
⟧
"

/-- The template of the HTTP handlers. -/
def handlerText : String := "//! HTTP adapter for the `⟦⟦ module ⟧⟧` module.
//!
//! Generated from ⟦⟦ title ⟧⟧ ⟦⟦ version ⟧⟧.

use actix_web::⟦web, HttpRequest, HttpResponse⟧;
⟦% if uses_validation %⟧
use validator::Validate;
⟦% endif %⟧

use super::context::build_request_context;
use super::response::⟦json_error, json_ok⟧;
use crate::logic::⟦⟦ module ⟧⟧::⟦⟦ logic_type ⟧⟧;
#[allow(unused_imports)]
use crate::types::⟦⟦ module ⟧⟧::*;

/// Route registration for the `⟦⟦ module ⟧⟧` module.
#[derive(Debug, Clone, Default)]
pub struct ⟦⟦ handler_type ⟧⟧ ⟦
    logic: ⟦⟦ logic_type ⟧⟧,
⟧

impl ⟦⟦ handler_type ⟧⟧ ⟦
    /// Creates the handler registered in the dependency list.
    pub fn new() -> Self ⟦
        Self ⟦
            logic: ⟦⟦ logic_type ⟧⟧::new(),
        ⟧
    ⟧

    /// Registers every `⟦⟦ module ⟧⟧` route on `cfg`.
    pub fn configure(&self, cfg: &mut web::ServiceConfig) ⟦
        cfg.app_data(web::Data::new(self.logic.clone()))
⟦% for op in operations %⟧
            .route(⟦⟦ op.path|rust_str ⟧⟧, web::⟦⟦ op.verb ⟧⟧().to(⟦⟦ op.handler_name ⟧⟧))
⟦% endfor %⟧
            ;
    ⟧
⟧
⟦% for op in operations %⟧

/// `⟦⟦ op.method ⟧⟧ ⟦⟦ op.path ⟧⟧`: ⟦⟦ op.doc ⟧⟧
pub async fn ⟦⟦ op.handler_name ⟧⟧(
    http: HttpRequest,
    logic: web::Data<⟦⟦ logic_type ⟧⟧>,
⟦% if op.has_path_params %⟧
    path: web::Path<(⟦% for p in op.path_params %⟧⟦⟦ p.rust_type ⟧⟧,⟦% endfor %⟧)>,
⟦% endif %⟧
⟦% if op.has_body_or_query %⟧
    req: web::⟦% if op.binds_json %⟧Json⟦% else %⟧Query⟦% endif %⟧<⟦⟦ op.request_type ⟧⟧>,
⟦% endif %⟧
) -> HttpResponse ⟦
    let ctx = build_request_context(&http);
⟦% if op.has_path_params %⟧
    let (⟦% for p in op.path_params %⟧⟦⟦ p.field_name ⟧⟧,⟦% endfor %⟧) = path.into_inner();
⟦% endif %⟧
⟦% if op.has_body_or_query %⟧
    let req = req.into_inner();
    if let Err(err) = req.validate() ⟦
        return json_error(40000, &err.to_string(), 400);
    ⟧
⟦% endif %⟧
    match logic
        .⟦⟦ op.method_name ⟧⟧(&ctx⟦% for p in op.path_params %⟧, ⟦⟦ p.field_name ⟧⟧⟦% endfor %⟧⟦% if op.has_body_or_query %⟧, req⟦% endif %⟧)
        .await
    ⟦
        Ok(data) => json_ok(data),
        Err(err) => json_error(err.code(), err.message(), err.status()),
    ⟧
⟧
⟦% endfor %⟧
"

/-- The template of the request and response types. -/
def typesText : String := "//! Request and response types for the `⟦⟦ module ⟧⟧` module.
//!
//! Generated from ⟦⟦ title ⟧⟧ ⟦⟦ version ⟧⟧.

use serde::⟦Deserialize, Serialize⟧;
⟦% if uses_validation %⟧
use validator::Validate;
⟦% endif %⟧
⟦% for op in operations %⟧
⟦% if op.has_body_or_query %⟧

/// Input of `⟦⟦ op.method ⟧⟧ ⟦⟦ op.path ⟧⟧`.
#[derive(Debug, Clone, Default, Serialize, Deserialize, Validate)]
pub struct ⟦⟦ op.request_type ⟧⟧ ⟦
⟦% for f in op.request_fields %⟧
⟦% if f.description %⟧
    /// ⟦⟦ f.description ⟧⟧
⟦% endif %⟧
⟦% if f.renamed %⟧
    #[serde(rename = ⟦⟦ f.name|rust_str ⟧⟧)]
⟦% endif %⟧
⟦% if not f.required %⟧
    #[serde(default, skip_serializing_if = \"Option::is_none\")]
⟦% endif %⟧
⟦% if f.validation %⟧
    #[validate(⟦⟦ f.validation ⟧⟧)]
⟦% endif %⟧
    pub ⟦⟦ f.field_name ⟧⟧: ⟦⟦ f.rust_type ⟧⟧,
⟦% endfor %⟧
⟧
⟦% endif %⟧
⟦% endfor %⟧
⟦% for model in models %⟧

⟦% if model.description %⟧
/// ⟦⟦ model.description ⟧⟧
⟦% else %⟧
/// `⟦⟦ model.name ⟧⟧` record.
⟦% endif %⟧
#[derive(Debug, Clone, Default, Serialize, Deserialize)]
pub struct ⟦⟦ model.name ⟧⟧ ⟦
⟦% for f in model.fields %⟧
⟦% if f.description %⟧
    /// ⟦⟦ f.description ⟧⟧
⟦% endif %⟧
⟦% if f.renamed %⟧
    #[serde(rename = ⟦⟦ f.name|rust_str ⟧⟧)]
⟦% endif %⟧
⟦% if not f.required %⟧
    #[serde(default, skip_serializing_if = \"Option::is_none\")]
⟦% endif %⟧
    pub ⟦⟦ f.field_name ⟧⟧: ⟦⟦ f.rust_type ⟧⟧,
⟦% endfor %⟧
⟧
⟦% endfor %⟧
"

/-- The template of the error codes. -/
def errorsText : String := "//! Error codes for the `⟦⟦ module ⟧⟧` module.
//!
//! Generated from ⟦⟦ title ⟧⟧ ⟦⟦ version ⟧⟧.

use std::fmt;

/// Business errors returned by [`crate::logic::⟦⟦ module ⟧⟧::⟦⟦ logic_type ⟧⟧`].
#[derive(Debug, Clone, Copy, PartialEq, Eq, Hash)]
pub enum ⟦⟦ error_type ⟧⟧ ⟦
⟦% for e in error_codes %⟧
    /// ⟦⟦ e.message ⟧⟧
    ⟦⟦ e.name ⟧⟧,
⟦% endfor %⟧
⟧

impl ⟦⟦ error_type ⟧⟧ ⟦
    /// Numeric business code.
    pub const fn code(&self) -> i64 ⟦
        match self ⟦
⟦% for e in error_codes %⟧
            Self::⟦⟦ e.name ⟧⟧ => ⟦⟦ e.code ⟧⟧,
⟦% endfor %⟧
        ⟧
    ⟧

    /// Message sent to clients.
    pub const fn message(&self) -> &'static str ⟦
        match self ⟦
⟦% for e in error_codes %⟧
            Self::⟦⟦ e.name ⟧⟧ => ⟦⟦ e.message|rust_str ⟧⟧,
⟦% endfor %⟧
        ⟧
    ⟧

    /// HTTP status the error maps to.
    pub const fn status(&self) -> u16 ⟦
        match self ⟦
⟦% for e in error_codes %⟧
            Self::⟦⟦ e.name ⟧⟧ => ⟦⟦ e.status ⟧⟧,
⟦% endfor %⟧
        ⟧
    ⟧
⟧

impl fmt::Display for ⟦⟦ error_type ⟧⟧ ⟦
    fn fmt(&self, f: &mut fmt::Formatter<'_>) -> fmt::Result ⟦
        write!(f, \"⟦⟧ (⟦⟧)\", self.message(), self.code())
    ⟧
⟧

impl std::error::Error for ⟦⟦ error_type ⟧⟧ ⟦⟧

/// Registered `(code, name, message)` triples.
pub const ⟦⟦ error_table ⟧⟧: &[(i64, &str, &str)] = &[
⟦% for e in error_codes %⟧
    (⟦⟦ e.code ⟧⟧, ⟦⟦ e.name|rust_str ⟧⟧, ⟦⟦ e.message|rust_str ⟧⟧),
⟦% endfor %⟧
];
"

/-- The template of the tests of the business logic. -/
def logicTestText : String := "//! Business logic tests for the `⟦⟦ module ⟧⟧` module.
//!
//! Generated from ⟦⟦ title ⟧⟧ ⟦⟦ version ⟧⟧.

use ⟦⟦ package ⟧⟧::handlers::context::RequestContext;
use ⟦⟦ package ⟧⟧::logic::⟦⟦ module ⟧⟧::⟦⟦ logic_type ⟧⟧;
#[allow(unused_imports)]
use ⟦⟦ package ⟧⟧::types::⟦⟦ module ⟧⟧::*;
⟦% for op in operations %⟧

#[actix_web::test]
async fn ⟦⟦ op.test_name ⟧⟧_returns_ok() ⟦
    let logic = ⟦⟦ logic_type ⟧⟧::new();
    let ctx = RequestContext::default();
    let result = logic
        .⟦⟦ op.method_name ⟧⟧(&ctx⟦% for p in op.path_params %⟧, ⟦⟦ p.sample ⟧⟧⟦% endfor %⟧⟦% if op.has_body_or_query %⟧, ⟦⟦ op.request_type ⟧⟧::default()⟦% endif %⟧)
        .await;
    assert!(result.is_ok());
⟧
⟦% endfor %⟧
"

/-- The template of the tests of the HTTP handlers. -/
def handlerTestText : String := "//! HTTP adapter tests for the `⟦⟦ module ⟧⟧` module.
//!
//! Generated from ⟦⟦ title ⟧⟧ ⟦⟦ version ⟧⟧.

use actix_web::http::StatusCode;
use actix_web::⟦test, App⟧;
use ⟦⟦ package ⟧⟧::handlers::⟦⟦ module ⟧⟧::⟦⟦ handler_type ⟧⟧;
⟦% for op in operations %⟧

#[actix_web::test]
async fn ⟦⟦ op.test_name ⟧⟧_is_routed() ⟦
    let app = test::init_service(App::new().configure(|cfg| ⟦⟦ handler_type ⟧⟧::new().configure(cfg))).await;
    let req = test::TestRequest::⟦⟦ op.verb ⟧⟧()
        .uri(⟦⟦ op.test_uri|rust_str ⟧⟧)
⟦% if op.binds_json %⟧
        .set_json(serde_json::json!(⟦⟧))
⟦% endif %⟧
        .to_request();
    let resp = test::call_service(&app, req).await;
    assert_ne!(resp.status(), StatusCode::NOT_FOUND);
⟧
⟦% endfor %⟧
"

/-- The template of the request context shared by all handlers. -/
def contextHelperText : String := "//! Request context shared by every handler module of `⟦⟦ package ⟧⟧`.

use actix_web::HttpRequest;

/// Per-request data passed from handlers into business logic.
#[derive(Debug, Clone, Default)]
pub struct RequestContext ⟦
    /// Value of the `x-request-id` header, empty when absent.
    pub request_id: String,
    /// HTTP method.
    pub method: String,
    /// Request path.
    pub path: String,
    /// Value of the `x-user-id` header.
    pub user_id: Option<String>,
⟧

/// Builds the context for one request.
pub fn build_request_context(req: &HttpRequest) -> RequestContext ⟦
    let header = |name: &str| ⟦
        req.headers()
            .get(name)
            .and_then(|v| v.to_str().ok())
            .map(str::to_string)
    ⟧;
    RequestContext ⟦
        request_id: header(\"x-request-id\").unwrap_or_default(),
        method: req.method().to_string(),
        path: req.path().to_string(),
        user_id: header(\"x-user-id\"),
    ⟧
⟧
"

/-- The template of the response envelope shared by all handlers. -/
def responseHelperText : String := "//! JSON response envelope shared by every handler module of `⟦⟦ package ⟧⟧`.

use actix_web::http::StatusCode;
use actix_web::HttpResponse;
use serde::Serialize;

/// Body written for every JSON response.
#[derive(Debug, Serialize)]
pub struct ApiResponse<T: Serialize> ⟦
    /// Business code, `0` on success.
    pub code: i64,
    /// Human-readable message.
    pub message: String,
    /// Payload, omitted on errors.
    #[serde(skip_serializing_if = \"Option::is_none\")]
    pub data: Option<T>,
⟧

/// Writes a `200 OK` envelope around `data`.
pub fn json_ok<T: Serialize>(data: T) -> HttpResponse ⟦
    HttpResponse::Ok().json(ApiResponse ⟦
        code: 0,
        message: \"ok\".to_string(),
        data: Some(data),
    ⟧)
⟧

/// Writes an error envelope with a business code and HTTP status.
pub fn json_error(code: i64, message: &str, status: u16) -> HttpResponse ⟦
    let status = StatusCode::from_u16(status).unwrap_or(StatusCode::INTERNAL_SERVER_ERROR);
    HttpResponse::build(status).json(ApiResponse::<()> ⟦
        code,
        message: message.to_string(),
        data: None,
    ⟧)
⟧
"

/-- The built-in template of a kind. -/
def builtIn (kind : TemplateKind) : String :=
  withBraces (match kind with
    | .logic => logicText
    | .handler => handlerText
    | .types => typesText
    | .errors => errorsText
    | .logicTest => logicTestText
    | .handlerTest => handlerTestText
    | .contextHelper => contextHelperText
    | .responseHelper => responseHelperText)

end TemplateKind

end ServiceGen
